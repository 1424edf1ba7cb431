import AlertLedger.Call.Prompt
import AlertLedger.Call.Timed
import AlertLedger.Command.Display
import AlertLedger.Command.Help
import AlertLedger.Json.Reader
import AlertLedger.Notice.Webhook
import AlertLedger.Pass.Basic
import AlertLedger.Settings

/-!
# Sessions

What a command does, as a function of what it finds around it (`Surroundings`) and in its files
(`FileContent`). Nothing is written here: an `Outcome` says what to print, what to write, and how
the command ends. A command whose last step, the writing, fails has that failure and prints
nothing (`Outcome.unwritten`).
-/

namespace AlertLedger.Command

/-! ## 1. Surroundings and outcomes -/

/-- What is found at a path. -/
inductive FileContent where
  | absent
  /-- There is something, but no text can be read from it. -/
  | unreadable
  | text (content : String)
  deriving DecidableEq, Repr

/-- What a command finds around it. -/
structure Surroundings where
  /-- The settings by name. -/
  setting : String → Option String
  now : Instant
  /-- How long the clock has run that deadlines are counted on. -/
  uptime : Span
  /-- The ids for new alerts. -/
  freshId : Nat → String
  endpoint : Webhook.Endpoint
  /-- The nanoseconds that it takes the endpoint to answer when an alert is announced, or nothing if
  it never answers. -/
  delay : Alert → Option Nat
  /-- The timers of the limit and the deadline. -/
  timers : Timers

/-- How many seconds the clock can count that deadlines are counted on. -/
def uptimeLimit : Nat := 1 <<< 63

/-- Whether the clock can count as far as a deadline. -/
def Surroundings.reaches (x : Surroundings) (timeout : Span) : Bool :=
  (x.uptime.nanos + timeout.nanos) / Span.second < uptimeLimit

/-- The notifier that the settings describe. -/
def Surroundings.notifier (x : Surroundings) : Notifier :=
  Webhook.notifier (x.setting Webhook.disabledSetting) (x.setting Webhook.urlSetting) x.endpoint

/-- How results are shown in a form. -/
def Surroundings.display (x : Surroundings) (form : OutputForm) : Display :=
  ⟨form, Paint.isForced (x.setting Paint.forceSetting)⟩

/-- The settings that commands look up. -/
def settingNames : List String :=
  [Settings.windowSetting, Settings.callLimitSetting, Webhook.disabledSetting,
    Webhook.urlSetting, Paint.forceSetting, Paint.plainSetting]

/-- The help text of a topic, painted as the settings say. -/
def helpText (setting : String → Option String) (t : Topic) : String :=
  t.text (Paint.isHelpPainted (setting Paint.forceSetting) (setting Paint.plainSetting))

/-- Why a command fails. -/
inductive Failure where
  | configuration (cause : SettingError)
  | unreadable (path : String)
  | noAlerts (path : String)
  | unwritable (path : String)
  | deadlineOutOfReach
  | pass (cause : PassError)
  | noChannels
  | undelivered (failed total : Nat)
  deriving DecidableEq, Repr

/-- The text of a failure. Writes that failed are listed; what else keeps a pass from succeeding
is not named. -/
def Failure.message : Failure → String
  | .configuration _ => "invalid alert manager configuration"
  | .unreadable path => "failed to read " ++ path
  | .noAlerts path => "invalid alert JSON in " ++ path
  | .unwritable path => "failed to write " ++ path
  | .deadlineOutOfReach => "the deadline is out of reach of the clock"
  | .pass (.persist failures) => (PassError.persist failures).message
  | .pass _ => "reconciliation failed"
  | .noChannels => "no notification channels configured (set SLACK_WEBHOOK_URL)"
  | .undelivered failed total =>
    Text.Decimal.text failed ++ " of " ++ Text.Decimal.text total ++ " channel(s) failed"

/-- Whether a failure breaks a command off, so that it has no say in how it ends. -/
def Failure.isAbrupt : Failure → Bool
  | .configuration e => e.cause.isAbrupt
  | .deadlineOutOfReach => true
  | _ => false

/-- The exit status when a command is broken off. -/
def abruptStatus : Nat := 101

/-- What a command comes to. -/
structure Outcome where
  /-- What it prints. -/
  output : String
  failure : Option Failure
  /-- What it writes, and where. -/
  writing : Option (String × String)
  /-- The events that were told to channels and answered, in order. -/
  told : List Event
  deriving DecidableEq

namespace Outcome

/-- A command that fails before it does anything. -/
def failed (f : Failure) : Outcome := ⟨"", some f, none, []⟩

/-- The outcome if the writing fails. -/
def unwritten (o : Outcome) : Outcome :=
  match o.writing with
  | none => o
  | some (path, _) => { o with output := "", failure := some (.unwritable path), writing := none }

/-- The exit status. -/
def status (o : Outcome) : Nat :=
  match o.failure with
  | none => 0
  | some f => if f.isAbrupt then abruptStatus else 1

/-- The error that a command ends with, if it is not broken off. -/
def error? (o : Outcome) : Option String :=
  match o.failure with
  | none => none
  | some f => if f.isAbrupt then none else some f.message

end Outcome

/-- The exit status when the arguments are wrong. -/
def UsageError.status (e : UsageError) : Nat := if e.isAbrupt then abruptStatus else 2

/-! ## 2. Reconciling -/

/-- What a reconciliation starts from. -/
structure Materials where
  settings : Settings
  stored : List Alert
  batch : List Alert

/-- The alerts in a file, in the form in which alerts are written; any other form is refused. -/
def alertsIn (path : String) : FileContent → Except Failure (List Alert)
  | .text content =>
    match (Json.read? content).bind alertsOfJson? with
    | some alerts => .ok alerts
    | none => .error (.noAlerts path)
  | _ => .error (.unreadable path)

/-- The stored alerts in a file; there are none if there is no file. -/
def storedIn (path : String) : FileContent → Except Failure (List Alert)
  | .absent => .ok []
  | content => alertsIn path content

namespace ReconcileOptions

/-- What a reconciliation starts from, by the settings and its two files. -/
def materials (o : ReconcileOptions) (setting : String → Option String)
    (state current : FileContent) : Except Failure Materials := do
  let settings ← (Settings.read setting).mapError .configuration
  let stored ← storedIn o.state state
  let batch ← alertsIn o.current current
  .ok { settings, stored, batch }

/-- The filters of a reconciliation. -/
def filters (o : ReconcileOptions) : List ScopeFilter :=
  (o.policy.map .policy).toList ++ (o.entity.map .entity).toList

end ReconcileOptions

/-- What a pass leaves behind: the store, and the events that channels answered. -/
structure Ledger where
  store : Store
  told : List Event

/-- How a call goes. Only the channels take time; the store answers at once. -/
def Ledger.conduct (x : Surroundings) (l : Ledger) (c : Call) : Conduct Ledger c.Answer :=
  let done := l.store.answer x.now x.notifier.announce c
  let heard := match c with
    | .dispatch a => if x.notifier.hasChannels then [a] else []
    | _ => []
  { delay := match heard with
      | a :: _ => x.delay a
      | [] => some 0
    cancels := false
    started := l
    answer := done.1
    answered := ⟨done.2, l.told ++ heard.map .ofAlert⟩ }

/-- The run of a reconciliation. -/
def reconcileRun (x : Surroundings) (o : ReconcileOptions) (m : Materials) :
    Run (Timed Ledger) (Except PassError Report) :=
  let pass : Pass :=
    { window := m.settings.window
      now := x.now
      freshId := x.freshId
      batch := m.batch
      filters := o.filters }
  let collaborators :=
    Collaborators.timed x.timers m.settings.callLimit o.timeout (Ledger.conduct x)
  pass.run collaborators ⟨⟨.ofList m.stored, []⟩, 0, false⟩

/-- What a reconciliation comes to. The alerts are written back even if the pass fails; a deadline
that the clock cannot count to keeps it from starting. -/
def reconcile (x : Surroundings) (form : OutputForm) (o : ReconcileOptions) (m : Materials) :
    Outcome :=
  if o.timeout.all x.reaches then
    let r := reconcileRun x o m
    let l := r.final.state
    let writing :=
      if o.writesBack then some (o.state, (alertsToJson l.store.snapshot).pretty) else none
    match Pass.verdict r with
    | .ok report => ⟨(x.display form).report report, none, writing, l.told⟩
    | .error e => ⟨"", some (.pass e), writing, l.told⟩
  else .failed .deadlineOutOfReach

/-! ## 3. Testing the channels -/

/-- What a test of the channels comes to. -/
def notifyTest (x : Surroundings) (form : OutputForm) (message : String) : Outcome :=
  if x.notifier.hasChannels then
    let event := Event.test message x.now
    let deliveries := x.notifier.tell event
    let failed := (deliveries.filterMap Delivery.failure?).length
    { output := String.join (deliveries.map (x.display form).delivery)
      failure := if failed = 0 then none else some (.undelivered failed deliveries.length)
      writing := none
      told := [event] }
  else .failed .noChannels

end AlertLedger.Command
