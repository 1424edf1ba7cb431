import AlertLedger.Http.Answer
import AlertLedger.Json.Basic
import AlertLedger.Notice.Channel

/-!
# The Slack webhook

A channel that posts an event to a URL as a message with one attachment. `payload` is what is
posted; `outcome` is what the answer means: any status from 200 to 299 is a success, status 429
asks to wait for a number of seconds, and any other status is a rejection with the body as its
reason. What comes back and is no answer is a failure on the way. Without a URL the channel is off.
-/

namespace AlertLedger.Webhook

/-! ## 1. The message -/

/-- The text below the title. -/
def description : Event → String
  | .policyViolation n =>
    if 1 < n.evidenceCount then
      n.summary ++ "\n_" ++ Text.Decimal.text n.evidenceCount ++ " pieces of evidence_"
    else n.summary
  | .test message _ => message

/-- A field for a value that may be missing. -/
def optionalField (title : String) : Option String → List (String × String)
  | none => []
  | some value => [(title, value)]

/-- The titled values of an event. -/
def fields : Event → List (String × String)
  | .policyViolation n =>
    [("Policy", n.policyName), ("Severity", n.severity.title), (n.entityKind, n.entityName),
        ("Stage", n.stage)]
      ++ optionalField "Namespace" n.scope
      ++ optionalField "Cluster" n.cluster
      ++ [("Alert ID", n.alertId)]
  | .test .. => []

/-- A titled value as an object. -/
def fieldToJson (f : String × String) : Json :=
  .object [("title", .string f.1), ("value", .string f.2), ("short", .bool true)]

/-- The member for the titled values, if there are any. -/
def fieldsMember (e : Event) : List (String × Json) :=
  match fields e with
  | [] => []
  | fs => [("fields", .ofList fieldToJson fs)]

/-- The attachment of an event. -/
def attachment (e : Event) : Json :=
  .object ([("fallback", .string e.title), ("color", .string e.severity.color),
      ("author_name", .string "Alert Manager"), ("title", .string e.title),
      ("text", .string (description e))]
    ++ fieldsMember e
    ++ [("footer", .string (e.severity.title ++ " | " ++ e.time.plainText)),
      ("ts", .integer e.time.unixSeconds)])

/-- What is posted for an event. -/
def payload (e : Event) : Json := .object [("attachments", .array [attachment e])]

/-! ## 2. The answer -/

/-- How long to wait when the answer does not say. -/
def defaultWait : Nat := 30

/-- A number of 64 bits, with a plus sign or without. -/
def readWait? (s : String) : Option Nat :=
  let digits := match s.toList with
    | '+' :: rest => rest
    | cs => cs
  match Text.Decimal.read? digits with
  | none => none
  | some n => if n < UInt64.size then some n else none

/-- How many seconds an answer asks to wait. -/
def wait (a : Http.Answer) : Nat :=
  match a.header? "Retry-After" with
  | none => defaultWait
  | some s =>
    if s.toList.all Http.isVisible then (readWait? (Text.strip s)).getD defaultWait
    else defaultWait

/-- The name of the channel. -/
def name : String := "slack"

/-- What an answer means. A rejection whose body is not whole has no reason. -/
def outcome (a : Http.Answer) : Except ChannelError Unit :=
  if 200 ≤ a.status ∧ a.status < 300 then .ok ()
  else if a.status = 429 then .error (.rateLimited (wait a))
  else .error (.rejected name a.status (a.content.getD ""))

/-! ## 3. The channel -/

/-- The setting that holds the URL. -/
def urlSetting : String := "SLACK_WEBHOOK_URL"

/-- The URL of a setting, if it is not blank. -/
def url? (setting : Option String) : Option String :=
  match setting with
  | none => none
  | some s => if Text.isBlankText s then none else some s

/-- What comes of posting to a URL: the text that comes back, or the reason why there is none. -/
abbrev Endpoint : Type := String → Json → Except String (List Char)

/-- What comes of sending an event. -/
def send (url : Option String) (endpoint : Endpoint) (e : Event) : Except ChannelError Unit :=
  match url with
  | none => .error (.notConfigured urlSetting)
  | some u =>
    match endpoint u (payload e) with
    | .error why => .error (.transport why)
    | .ok text =>
      match Http.Answer.read? text with
      | none => .error (.transport "the answer cannot be read")
      | some answer => outcome answer

/-- The channel with a URL, at an endpoint. -/
def channel (url : Option String) (endpoint : Endpoint) : Channel :=
  ⟨name, url.isSome, send url endpoint⟩

/-! ## 4. The notifier of the settings -/

/-- The setting that switches announcements off. -/
def disabledSetting : String := "NOTIFY_DISABLED"

/-- Whether a setting switches announcements off: the word `true` in any case, or a one. -/
def isDisabled (setting : Option String) : Bool :=
  match setting with
  | none => false
  | some s => s.toLower = "true" || s = "1"

/-- The notifier that two settings describe: the webhook, if it has a URL and is not switched
off. -/
def notifier (disabled url : Option String) (endpoint : Endpoint) : Notifier :=
  if isDisabled disabled then .off
  else
    match url? url with
    | none => .over []
    | some u => .over [channel (some u) endpoint]

end AlertLedger.Webhook
