import AlertLedger.Alert.Form
import AlertLedger.Notice.Event

/-!
# The JSON form of events

An event is an object whose type tells its kind. An event that does not say when it was observed
was observed now.
-/

namespace AlertLedger

open Json

/-- The name of a severity in an event. -/
def Severity.toEventJson : Severity → Json
  | .low => .string "low"
  | .medium => .string "medium"
  | .high => .string "high"
  | .critical => .string "critical"

/-- The severity with a name in an event. -/
def Severity.ofEventJson? : Json → Option Severity
  | .string "low" => some .low
  | .string "medium" => some .medium
  | .string "high" => some .high
  | .string "critical" => some .critical
  | _ => none

/-- The members of a notice. -/
def ViolationNotice.members (n : ViolationNotice) : List (String × Json) :=
  [("alert_id", .string n.alertId), ("policy_id", .string n.policyId),
      ("policy_name", .string n.policyName), ("severity", n.severity.toEventJson),
      ("entity_kind", .string n.entityKind), ("entity_name", .string n.entityName)]
    ++ optionalMember "namespace" .string n.scope
    ++ optionalMember "cluster_id" .string n.cluster
    ++ [("lifecycle_stage", .string n.stage), ("summary", .string n.summary),
      ("evidence_count", ofNat n.evidenceCount), ("timestamp", n.time.toJson)]

/-- The notice that the members of an object make. -/
def ViolationNotice.ofMembers? (now : Instant) (ms : List (String × Json)) :
    Option ViolationNotice := do
  let alertId ← required ms "alert_id" asString?
  let policyId ← required ms "policy_id" asString?
  let policyName ← required ms "policy_name" asString?
  let severity ← required ms "severity" Severity.ofEventJson?
  let entityKind ← required ms "entity_kind" asString?
  let entityName ← required ms "entity_name" asString?
  let scope ← optional ms "namespace" asString?
  let cluster ← optional ms "cluster_id" asString?
  let stage ← required ms "lifecycle_stage" asString?
  let summary ← required ms "summary" asString?
  let evidenceCount ← required ms "evidence_count" (asNatBelow? UInt64.size)
  let time ← defaulted ms "timestamp" Instant.ofJson? now
  some { alertId, policyId, policyName, severity, entityKind, entityName, scope, cluster, stage,
         summary, evidenceCount, time }

/-- An event as an object. -/
def Event.toJson : Event → Json
  | .policyViolation n => .object (("type", .string "policy_violation") :: n.members)
  | .test message time =>
    .object [("type", .string "test"), ("message", .string message), ("timestamp", time.toJson)]

/-- The event of a kind that the members of an object make. -/
def Event.ofKind? (now : Instant) (ms : List (String × Json)) : Json → Option Event
  | .string "policy_violation" => (ViolationNotice.ofMembers? now ms).map .policyViolation
  | .string "test" => do
    let message ← required ms "message" asString?
    let time ← defaulted ms "timestamp" Instant.ofJson? now
    some (.test message time)
  | _ => none

/-- The event of an object. Its kind stands among its fields, so all of them are taken over
first. -/
def Event.ofJson? (now : Instant) (v : Json) : Option Event := do
  let ms ← v.completeMembers?
  required ms "type" (ofKind? now ms)

end AlertLedger
