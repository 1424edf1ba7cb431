import AlertLedger.Alert.Basic

/-!
# Events

What channels are told. The notice of an alert names the policy and the entity and sums the
evidence up in one line; a test event carries a message only. Every event has a title, a severity
and an instant.
-/

namespace AlertLedger

/-- What channels are told about an alert. -/
structure ViolationNotice where
  alertId : String
  policyId : String
  policyName : String
  severity : Severity
  entityKind : String
  entityName : String
  scope : Option String
  cluster : Option String
  stage : String
  summary : String
  evidenceCount : Nat
  time : Instant
  deriving DecidableEq

/-- Something to tell the channels. -/
inductive Event where
  | policyViolation (n : ViolationNotice)
  | test (message : String) (time : Instant)
  deriving DecidableEq

/-! ## 1. The notice of an alert -/

/-- How a kind of entity is called in a notice. -/
def EntityKind.title : EntityKind → String
  | .deployment => "Deployment"
  | .resource => "Resource"

namespace ViolationNotice

/-- The sentence about an alert's processes, if it says anything. -/
def processMessage? (a : Alert) : Option String :=
  match a.processEvidence with
  | none => none
  | some e => if e.message = "" then none else some e.message

/-- What the evidence of an alert comes down to: the sentence about its processes, else its first
violation, else that the policy is violated. -/
def headline (a : Alert) : String :=
  match processMessage? a with
  | some message => message
  | none =>
    match a.violations with
    | v :: _ => v.message
    | [] => "Policy violated"

/-- The headline, with the number of pieces of evidence beyond the first. -/
def summaryOf (a : Alert) : String :=
  if a.evidenceCount ≤ 1 then headline a
  else headline a ++ " (+" ++ Text.Decimal.text (a.evidenceCount - 1) ++ " more)"

/-- The notice of an alert. -/
def of (a : Alert) : ViolationNotice where
  alertId := a.id
  policyId := a.policy.id
  policyName := a.policy.name
  severity := a.policy.severity
  entityKind := a.entity.kind.title
  entityName := a.entity.name
  scope := a.entity.scope
  cluster := a.entity.cluster
  stage := a.stage.text
  summary := summaryOf a
  evidenceCount := a.evidenceCount
  time := a.time

end ViolationNotice

/-! ## 2. Features of every event -/

/-- How a severity is called in an event. -/
def Severity.title : Severity → String
  | .low => "Low"
  | .medium => "Medium"
  | .high => "High"
  | .critical => "Critical"

/-- The color that stands for a severity. -/
def Severity.color : Severity → String
  | .low => "#3498db"
  | .medium => "#f1c40f"
  | .high => "#f39c12"
  | .critical => "#e74c3c"

namespace Event

/-- The event of an alert. -/
def ofAlert (a : Alert) : Event := .policyViolation (.of a)

/-- The title of an event. -/
def title : Event → String
  | .policyViolation n =>
    "Policy Violation: " ++ n.policyName ++ " on " ++ n.entityKind ++ " " ++ n.entityName
  | .test .. => "Test Notification"

/-- How grave an event is; a test is not. -/
def severity : Event → Severity
  | .policyViolation n => n.severity
  | .test .. => .low

/-- When an event was observed. -/
def time : Event → Instant
  | .policyViolation n => n.time
  | .test _ t => t

end Event

end AlertLedger
