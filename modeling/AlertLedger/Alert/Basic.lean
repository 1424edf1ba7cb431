import AlertLedger.Time.Timestamp

/-!
# Alerts

An alert is the record of one finding: a policy violated by one deployment or resource. The pair
of policy and entity is the finding's `Key`, and it stays the same from one detection to the next;
the id belongs to the record. Evidence comes in two lists: violations, and process indicators
under a sentence that sums them up.
-/

namespace AlertLedger

/-! ## 1. Policy, entity and key -/

/-- How grave a policy takes its violation to be. -/
inductive Severity where
  | low | medium | high | critical
  deriving DecidableEq, Repr

/-- The place of a severity in their order. -/
def Severity.rank : Severity → Nat
  | .low => 0
  | .medium => 1
  | .high => 2
  | .critical => 3

/-- The stage of a workload's life at which a policy is evaluated. -/
inductive Stage where
  | build | deploy | runtime
  deriving DecidableEq, Repr

/-- The place of a stage in their order. -/
def Stage.rank : Stage → Nat
  | .build => 0
  | .deploy => 1
  | .runtime => 2

/-- The name of a stage. -/
def Stage.text : Stage → String
  | .build => "BUILD"
  | .deploy => "DEPLOY"
  | .runtime => "RUNTIME"

/-- The state of a record. -/
inductive Status where
  /-- The finding is being observed. -/
  | active
  /-- The finding is no longer observed; the record is history. -/
  | resolved
  /-- An enforcement against the entity was attempted. -/
  | attempted
  deriving DecidableEq, Repr

/-- The name of a state. -/
def Status.text : Status → String
  | .active => "ACTIVE"
  | .resolved => "RESOLVED"
  | .attempted => "ATTEMPTED"

/-- The policy that an alert was raised for. -/
structure Policy where
  id : String
  name : String
  severity : Severity
  deriving DecidableEq, Repr

/-- What a policy was evaluated against. -/
inductive EntityKind where
  | deployment | resource
  deriving DecidableEq, Repr

/-- The deployment or resource that an alert is about. -/
structure Entity where
  kind : EntityKind
  id : String
  name : String
  scope : Option String
  cluster : Option String
  deriving DecidableEq, Repr

/-- The identity of a finding: its policy and its entity. -/
structure Key where
  policy : String
  entity : String
  deriving DecidableEq, Repr

namespace Key

/-- A key as one text. -/
def text (k : Key) : String := k.policy ++ "/" ++ k.entity

/-- Keys are ordered by policy, and within a policy by entity. -/
protected def Before (a b : Key) : Prop :=
  a.policy < b.policy ∨ (a.policy = b.policy ∧ a.entity < b.entity)

instance : LT Key := ⟨Key.Before⟩

instance (a b : Key) : Decidable (a < b) :=
  inferInstanceAs (Decidable (_ ∨ (_ ∧ _)))

theorem lt_iff {a b : Key} :
    a < b ↔ a.policy < b.policy ∨ (a.policy = b.policy ∧ a.entity < b.entity) := Iff.rfl

instance : Std.Irrefl (α := Key) (· < ·) where
  irrefl a h := by
    rcases lt_iff.1 h with h | h
    · exact String.lt_irrefl _ h
    · exact String.lt_irrefl _ h.2

instance : Trans (α := Key) (β := Key) (γ := Key) (· < ·) (· < ·) (· < ·) where
  trans {a b c} hab hbc := by
    rcases lt_iff.1 hab with h | ⟨e, h⟩ <;> rcases lt_iff.1 hbc with h' | ⟨e', h'⟩
    · exact .inl (String.lt_trans h h')
    · exact .inl (e' ▸ h)
    · exact .inl (e ▸ h')
    · exact .inr ⟨e.trans e', String.lt_trans h h'⟩

instance : Std.Trichotomous (α := Key) (· < ·) where
  trichotomous a b hab hba := by
    have tri : ∀ s t : String, ¬ s < t → ¬ t < s → s = t :=
      Std.Trichotomous.trichotomous (r := fun s t : String => s < t)
    obtain ⟨p, e⟩ := a
    obtain ⟨q, f⟩ := b
    have hp : p = q := tri p q (fun h => hab (.inl h)) (fun h => hba (.inl h))
    subst hp
    have he : e = f := tri e f (fun h => hab (.inr ⟨rfl, h⟩)) (fun h => hba (.inr ⟨rfl, h⟩))
    subst he
    rfl

end Key

/-! ## 2. Evidence -/

/-- A named value attached to a violation. -/
structure Attribute where
  key : String
  value : String
  deriving DecidableEq, Repr

/-- What kind of observation a violation is, with what is known of it. -/
inductive Observation where
  | generic
  /-- An event of the cluster, with its time if it has one. -/
  | clusterEvent (time : Option Instant) (attributes : List Attribute)
  | networkFlow (attributes : List Attribute)
  deriving DecidableEq

/-- The name of a kind of observation. -/
def Observation.kindText : Observation → String
  | .generic => "GENERIC"
  | .clusterEvent .. => "K8S_EVENT"
  | .networkFlow .. => "NETWORK_FLOW"

/-- A piece of evidence other than a process. -/
structure Violation where
  message : String
  observation : Observation
  deriving DecidableEq

namespace Violation

/-- The attribute under which a network flow carries its time. -/
def flowTimeKey : String := "NetworkFlowTimestamp"

/-- A violation of which nothing but its message is known. -/
def generic (message : String) : Violation := ⟨message, .generic⟩

/-- An event of the cluster without attributes. -/
def clusterEvent (message : String) (time : Instant) : Violation :=
  ⟨message, .clusterEvent (some time) []⟩

/-- A network flow; its time is written into an attribute. -/
def networkFlow (message : String) (time : Instant) : Violation :=
  ⟨message, .networkFlow [⟨flowTimeKey, time.plainText⟩]⟩

end Violation

/-- One execution of a process. -/
structure ProcessSighting where
  container : String
  name : String
  path : String
  arguments : String
  user : UInt32
  time : Option Instant
  deriving DecidableEq

/-- An execution of the program with a name, as root and without arguments. -/
def ProcessSighting.named (name : String) (time : Instant) : ProcessSighting :=
  ⟨"", name, "/usr/bin/" ++ name, "", 0, some time⟩

/-- The processes of an alert under a sentence that sums them up. -/
structure ProcessEvidence where
  message : String
  processes : List ProcessSighting
  deriving DecidableEq

/-! ## 3. Alerts -/

/-- The record of a finding. -/
structure Alert where
  /-- Empty until the record has been given an id. -/
  id : String
  policy : Policy
  entity : Entity
  stage : Stage
  status : Status
  violations : List Violation
  processEvidence : Option ProcessEvidence
  /-- When the finding was first observed. -/
  time : Instant
  resolvedAt : Option Instant
  deriving DecidableEq

namespace Alert

/-- An active alert without id and evidence. -/
def observed (policy : Policy) (entity : Entity) (stage : Stage) (now : Instant) : Alert :=
  ⟨"", policy, entity, stage, .active, [], none, now, none⟩

/-- The identity of the finding. -/
def key (a : Alert) : Key := ⟨a.policy.id, a.entity.id⟩

/-- Whether the alert was raised at runtime. -/
def isRuntime (a : Alert) : Bool := a.stage = .runtime

/-- Whether the alert has been given an id. -/
def hasId (a : Alert) : Bool := a.id ≠ ""

/-- The process indicators of an alert. -/
def processes (a : Alert) : List ProcessSighting :=
  match a.processEvidence with
  | none => []
  | some e => e.processes

/-- How many pieces of evidence an alert carries. -/
def evidenceCount (a : Alert) : Nat := a.violations.length + a.processes.length

/-- The alert as history, resolved at an instant. -/
def resolve (a : Alert) (t : Instant) : Alert :=
  { a with status := .resolved, resolvedAt := some t }

@[simp] theorem key_resolve (a : Alert) (t : Instant) : (a.resolve t).key = a.key := rfl

@[simp] theorem processes_resolve (a : Alert) (t : Instant) :
    (a.resolve t).processes = a.processes := rfl

/-- The order in which records are listed: by first observation, then by id. -/
def listedBefore (a b : Alert) : Bool :=
  a.time < b.time || (a.time = b.time && a.id ≤ b.id)

end Alert

end AlertLedger
