import AlertLedger.Alert.Basic
import AlertLedger.Json.Fields

/-!
# The JSON form of alerts

How an alert and its parts stand in a JSON text, and how they are read from one. Each type has a
writer `toJson` and a reader `ofJson?`. Optional fields are left out when there is nothing to
write, and read as nothing when left out or null; fields with a usual value may be left out but
are always written. Members are written in the order of the fields.

Of several forms that could stand for one value only the written one is read. A record is an object
with named members, and not an array of its values; one of several kinds or states is its name, and
neither a number nor an object around the name. What stands there in another form is refused.
-/

namespace AlertLedger

open Json

/-! ## 1. Names -/

/-- The name of a severity on a policy. -/
def Severity.toJson : Severity → Json
  | .low => .string "LOW"
  | .medium => .string "MEDIUM"
  | .high => .string "HIGH"
  | .critical => .string "CRITICAL"

/-- The severity with a name. -/
def Severity.ofJson? : Json → Option Severity
  | .string "LOW" => some .low
  | .string "MEDIUM" => some .medium
  | .string "HIGH" => some .high
  | .string "CRITICAL" => some .critical
  | _ => none

/-- The name of a stage. -/
def Stage.toJson (s : Stage) : Json := .string s.text

/-- The stage with a name. -/
def Stage.ofJson? : Json → Option Stage
  | .string "BUILD" => some .build
  | .string "DEPLOY" => some .deploy
  | .string "RUNTIME" => some .runtime
  | _ => none

/-- The name of a state. -/
def Status.toJson (s : Status) : Json := .string s.text

/-- The state with a name. -/
def Status.ofJson? : Json → Option Status
  | .string "ACTIVE" => some .active
  | .string "RESOLVED" => some .resolved
  | .string "ATTEMPTED" => some .attempted
  | _ => none

/-- The name of a kind of entity. -/
def EntityKind.toJson : EntityKind → Json
  | .deployment => .string "deployment"
  | .resource => .string "resource"

/-- The kind of entity with a name. -/
def EntityKind.ofJson? : Json → Option EntityKind
  | .string "deployment" => some .deployment
  | .string "resource" => some .resource
  | _ => none

@[simp] theorem Severity.ofJson?_toJson (s : Severity) : ofJson? s.toJson = some s := by
  cases s <;> rfl

@[simp] theorem Stage.ofJson?_toJson (s : Stage) : ofJson? s.toJson = some s := by
  cases s <;> rfl

@[simp] theorem Status.ofJson?_toJson (s : Status) : ofJson? s.toJson = some s := by
  cases s <;> rfl

@[simp] theorem EntityKind.ofJson?_toJson (k : EntityKind) : ofJson? k.toJson = some k := by
  cases k <;> rfl

/-! ## 2. Instants -/

/-- An instant as a timestamp. -/
def Instant.toJson (t : Instant) : Json := .string t.text

/-- The instant of a timestamp. -/
def Instant.ofJson? : Json → Option Instant
  | .string s => readTimestamp? s
  | _ => none

/-! ## 3. Policy, entity and key -/

/-- A policy as an object. -/
def Policy.toJson (p : Policy) : Json :=
  .object [("id", .string p.id), ("name", .string p.name), ("severity", p.severity.toJson)]

/-- The policy of an object. -/
def Policy.ofJson? (v : Json) : Option Policy := do
  let ms ← v.members?
  let id ← required ms "id" asString?
  let name ← required ms "name" asString?
  let severity ← required ms "severity" Severity.ofJson?
  some { id, name, severity }

/-- An entity as an object. -/
def Entity.toJson (e : Entity) : Json :=
  .object ([("kind", e.kind.toJson), ("id", .string e.id), ("name", .string e.name)]
    ++ optionalMember "namespace" .string e.scope
    ++ optionalMember "cluster_id" .string e.cluster)

/-- The entity of an object. -/
def Entity.ofJson? (v : Json) : Option Entity := do
  let ms ← v.members?
  let kind ← required ms "kind" EntityKind.ofJson?
  let id ← required ms "id" asString?
  let name ← required ms "name" asString?
  let scope ← optional ms "namespace" asString?
  let cluster ← optional ms "cluster_id" asString?
  some { kind, id, name, scope, cluster }

/-- A key as an object. -/
def Key.toJson (k : Key) : Json :=
  .object [("policy_id", .string k.policy), ("entity_id", .string k.entity)]

/-- The key of an object. -/
def Key.ofJson? (v : Json) : Option Key := do
  let ms ← v.members?
  let policy ← required ms "policy_id" asString?
  let entity ← required ms "entity_id" asString?
  some { policy, entity }

/-! ## 4. Evidence -/

/-- An attribute as an object. -/
def Attribute.toJson (a : Attribute) : Json :=
  .object [("key", .string a.key), ("value", .string a.value)]

/-- The attribute of an object. -/
def Attribute.ofJson? (v : Json) : Option Attribute := do
  let ms ← v.members?
  let key ← required ms "key" asString?
  let value ← required ms "value" asString?
  some { key, value }

/-- The members that tell what is known of an observation. A cluster event without attributes
does not mention them; a network flow always does. -/
def Observation.members : Observation → List (String × Json)
  | .generic => []
  | .clusterEvent time attributes =>
    optionalMember "time" Instant.toJson time
      ++ (if attributes = [] then [] else [("attributes", ofList Attribute.toJson attributes)])
  | .networkFlow attributes => [("attributes", ofList Attribute.toJson attributes)]

/-- The observation of a kind that an object describes. Of a generic one nothing is read. -/
def Observation.ofMembers? (ms : List (String × Json)) : Json → Option Observation
  | .string "GENERIC" => some .generic
  | .string "K8S_EVENT" => do
    let time ← optional ms "time" Instant.ofJson?
    let attributes ← defaulted ms "attributes" (asList? Attribute.ofJson?) []
    some (.clusterEvent time attributes)
  | .string "NETWORK_FLOW" => do
    let attributes ← required ms "attributes" (asList? Attribute.ofJson?)
    some (.networkFlow attributes)
  | _ => none

/-- A violation as an object. -/
def Violation.toJson (v : Violation) : Json :=
  .object ([("message", .string v.message), ("type", .string v.observation.kindText)]
    ++ v.observation.members)

/-- The violation of an object. Its kind stands among its fields, so all of them are taken over
first. -/
def Violation.ofJson? (v : Json) : Option Violation := do
  let ms ← v.completeMembers?
  let message ← required ms "message" asString?
  let observation ← required ms "type" (Observation.ofMembers? ms)
  some { message, observation }

/-- How a process was executed, as an object. -/
def ProcessSighting.signalToJson (p : ProcessSighting) : Json :=
  .object ([("name", .string p.name), ("exec_file_path", .string p.path),
      ("args", .string p.arguments), ("uid", ofNat p.user.toNat)]
    ++ optionalMember "time" Instant.toJson p.time)

/-- A process as an object: the container, and how the process was executed there. -/
def ProcessSighting.toJson (p : ProcessSighting) : Json :=
  .object [("container_name", .string p.container), ("signal", p.signalToJson)]

/-- A user id of 32 bits. -/
def asUser? (v : Json) : Option UInt32 := (asNatBelow? UInt32.size v).map UInt32.ofNat

/-- How a process was executed, in a container. -/
def ProcessSighting.ofSignal? (container : String) (v : Json) : Option ProcessSighting := do
  let ms ← v.members?
  let name ← required ms "name" asString?
  let path ← required ms "exec_file_path" asString?
  let arguments ← defaulted ms "args" asString? ""
  let user ← defaulted ms "uid" asUser? 0
  let time ← optional ms "time" Instant.ofJson?
  some { container, name, path, arguments, user, time }

/-- The process of an object. -/
def ProcessSighting.ofJson? (v : Json) : Option ProcessSighting := do
  let ms ← v.members?
  let container ← defaulted ms "container_name" asString? ""
  required ms "signal" (ProcessSighting.ofSignal? container)

/-- Process evidence as an object. -/
def ProcessEvidence.toJson (e : ProcessEvidence) : Json :=
  .object [("message", .string e.message), ("processes", ofList ProcessSighting.toJson e.processes)]

/-- The process evidence of an object. -/
def ProcessEvidence.ofJson? (v : Json) : Option ProcessEvidence := do
  let ms ← v.members?
  let message ← required ms "message" asString?
  let processes ← required ms "processes" (asList? ProcessSighting.ofJson?)
  some { message, processes }

/-! ## 5. Alerts -/

/-- An alert as an object. -/
def Alert.toJson (a : Alert) : Json :=
  .object ([("id", .string a.id), ("policy", a.policy.toJson), ("entity", a.entity.toJson),
      ("lifecycle_stage", a.stage.toJson), ("state", a.status.toJson),
      ("violations", ofList Violation.toJson a.violations)]
    ++ optionalMember "process_violation" ProcessEvidence.toJson a.processEvidence
    ++ [("time", a.time.toJson)]
    ++ optionalMember "resolved_at" Instant.toJson a.resolvedAt)

/-- The alert of an object. -/
def Alert.ofJson? (v : Json) : Option Alert := do
  let ms ← v.members?
  let id ← defaulted ms "id" asString? ""
  let policy ← required ms "policy" Policy.ofJson?
  let entity ← required ms "entity" Entity.ofJson?
  let stage ← required ms "lifecycle_stage" Stage.ofJson?
  let status ← required ms "state" Status.ofJson?
  let violations ← defaulted ms "violations" (asList? Violation.ofJson?) []
  let processEvidence ← optional ms "process_violation" ProcessEvidence.ofJson?
  let time ← required ms "time" Instant.ofJson?
  let resolvedAt ← optional ms "resolved_at" Instant.ofJson?
  some { id, policy, entity, stage, status, violations, processEvidence, time, resolvedAt }

/-- A list of alerts as an array. -/
def alertsToJson (as : List Alert) : Json := ofList Alert.toJson as

/-- The alerts of an array. -/
def alertsOfJson? (v : Json) : Option (List Alert) := asList? Alert.ofJson? v

end AlertLedger
