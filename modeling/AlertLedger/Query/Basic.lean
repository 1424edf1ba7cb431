import AlertLedger.Alert.Basic

/-!
# Queries

A query constrains the fields of a record; a list that is empty and an id that is not given
constrain nothing. A pass works on the active records that its filters leave in scope
(`Query.inScope`): a later filter on policy or entity replaces an earlier one, filters on stages
add up.
-/

namespace AlertLedger

/-! ## 1. Filters and queries -/

/-- One way to narrow the scope of a pass. -/
inductive ScopeFilter where
  | policy (id : String)
  | entity (id : String)
  | stage (s : Stage)
  | notStage (s : Stage)
  deriving DecidableEq, Repr

/-- Constraints on the fields of a record. -/
structure Query where
  statuses : List Status
  policy : Option String
  entity : Option String
  stages : List Stage
  excludedStages : List Stage
  deriving DecidableEq, Repr

/-- A list with one value more, unless the list has it already. -/
def addOnce {α : Type} [DecidableEq α] (as : List α) (a : α) : List α :=
  if a ∈ as then as else as ++ [a]

@[simp] theorem mem_addOnce {α : Type} [DecidableEq α] {as : List α} {a x : α} :
    x ∈ addOnce as a ↔ x ∈ as ∨ x = a := by
  unfold addOnce
  split
  · constructor
    · exact .inl
    · rintro (h | rfl)
      · exact h
      · assumption
  · simp

namespace Query

/-- The query that every record matches. -/
def any : Query := ⟨[], none, none, [], []⟩

/-- The query with one state more. -/
def withStatus (q : Query) (s : Status) : Query := { q with statuses := addOnce q.statuses s }

/-- The query for one policy. -/
def withPolicy (q : Query) (id : String) : Query := { q with policy := some id }

/-- The query for one entity. -/
def withEntity (q : Query) (id : String) : Query := { q with entity := some id }

/-- The query with one stage more. -/
def withStage (q : Query) (s : Stage) : Query := { q with stages := addOnce q.stages s }

/-- The query with one stage less. -/
def withoutStage (q : Query) (s : Stage) : Query :=
  { q with excludedStages := addOnce q.excludedStages s }

/-- The query narrowed by a filter. -/
def narrow (q : Query) : ScopeFilter → Query
  | .policy id => q.withPolicy id
  | .entity id => q.withEntity id
  | .stage s => q.withStage s
  | .notStage s => q.withoutStage s

/-- The query narrowed by filters, one after the other. -/
def narrowAll (q : Query) (fs : List ScopeFilter) : Query := fs.foldl narrow q

/-- The active records. -/
def active : Query := any.withStatus .active

/-- The active records that filters leave in scope. -/
def inScope (fs : List ScopeFilter) : Query := active.narrowAll fs

/-- The resolved records of a finding. -/
def resolvedFor (k : Key) : Query :=
  ((any.withStatus .resolved).withPolicy k.policy).withEntity k.entity

/-! ## 2. What a query matches -/

/-- Whether an optional constraint admits a value. -/
def admits (constraint : Option String) (value : String) : Bool :=
  match constraint with
  | none => true
  | some v => v = value

/-- Whether a list of admitted values admits one; the empty list admits all. -/
def admitsAmong {α : Type} [DecidableEq α] (values : List α) (a : α) : Bool :=
  values = [] || a ∈ values

/-- Whether a record satisfies every constraint. -/
def isMatch (q : Query) (a : Alert) : Bool :=
  admitsAmong q.statuses a.status && admits q.policy a.policy.id && admits q.entity a.entity.id
    && admitsAmong q.stages a.stage && a.stage ∉ q.excludedStages

@[simp] theorem isMatch_any (a : Alert) : any.isMatch a = true := by
  simp [isMatch, any, admits, admitsAmong]

/-- The resolved records of a finding are those with its policy and its entity. -/
theorem isMatch_resolvedFor {k : Key} {a : Alert} :
    (resolvedFor k).isMatch a = true ↔ a.status = .resolved ∧ a.key = k := by
  cases k
  simp only [resolvedFor, isMatch, withEntity, withPolicy, withStatus, any, admits, admitsAmong,
    addOnce, Alert.key, Key.mk.injEq]
  grind

/-! ## 3. The text of a query -/

/-- The terms of a query, in the order of its fields. -/
def terms (q : Query) : List String :=
  (if q.statuses = [] then []
    else ["Violation State:" ++ ",".intercalate (q.statuses.map Status.text)])
  ++ (match q.policy with
    | none => []
    | some id => ["Policy ID:" ++ id])
  ++ (match q.entity with
    | none => []
    | some id => ["Entity ID:" ++ id])
  ++ (if q.stages = [] then []
    else ["Lifecycle Stage:" ++ ",".intercalate (q.stages.map Stage.text)])
  ++ q.excludedStages.map fun s => "Lifecycle Stage:!" ++ s.text

/-- A query as one text; the query that constrains nothing is a star. -/
def text (q : Query) : String :=
  match q.terms with
  | [] => "*"
  | ts => "+".intercalate ts

end Query

end AlertLedger
