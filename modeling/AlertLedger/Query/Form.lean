import AlertLedger.Alert.Form
import AlertLedger.Query.Basic

/-!
# The JSON form of filters and queries

A filter is an object of two members, its kind and its value. A query is an object with all its
fields; an id that is not given is written as null.
-/

namespace AlertLedger

open Json

/-- A filter as an object. -/
def ScopeFilter.toJson : ScopeFilter → Json
  | .policy id => .object [("filter", .string "policy"), ("value", .string id)]
  | .entity id => .object [("filter", .string "entity"), ("value", .string id)]
  | .stage s => .object [("filter", .string "lifecycle_stage"), ("value", s.toJson)]
  | .notStage s => .object [("filter", .string "exclude_lifecycle_stage"), ("value", s.toJson)]

/-- The filter of a kind with a value. -/
def ScopeFilter.ofKind? (kind : String) (value : Json) : Option ScopeFilter :=
  match kind with
  | "policy" => (asString? value).map .policy
  | "entity" => (asString? value).map .entity
  | "lifecycle_stage" => (Stage.ofJson? value).map .stage
  | "exclude_lifecycle_stage" => (Stage.ofJson? value).map .notStage
  | _ => none

/-- The filter of an object. -/
def ScopeFilter.ofJson? (v : Json) : Option ScopeFilter := do
  let ms ← v.members?
  let kind ← required ms "filter" asString?
  required ms "value" (ofKind? kind)

/-- An id that may be missing. -/
def nullable : Option String → Json
  | none => .null
  | some s => .string s

/-- A query as an object. -/
def Query.toJson (q : Query) : Json :=
  .object [("states", ofList Status.toJson q.statuses), ("policy_id", nullable q.policy),
    ("entity_id", nullable q.entity), ("stages", ofList Stage.toJson q.stages),
    ("excluded_stages", ofList Stage.toJson q.excludedStages)]

/-- The query of an object. -/
def Query.ofJson? (v : Json) : Option Query := do
  let ms ← v.members?
  let statuses ← required ms "states" (asList? Status.ofJson?)
  let policy ← optional ms "policy_id" asString?
  let entity ← optional ms "entity_id" asString?
  let stages ← required ms "stages" (asList? Stage.ofJson?)
  let excludedStages ← required ms "excluded_stages" (asList? Stage.ofJson?)
  some { statuses, policy, entity, stages, excludedStages }

end AlertLedger
