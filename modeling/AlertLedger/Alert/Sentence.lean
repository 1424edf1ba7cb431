import AlertLedger.Alert.Basic
import AlertLedger.Ascending

/-!
# The sentence about processes

Process evidence is summed up in one sentence: which binaries were executed, with which arguments,
under which user. The sentence sees three finite sets only (`Summary`): the paths, the arguments
that are not empty, and the user ids; so the order of the processes, their repetitions and
everything else about them leave it unchanged.
-/

namespace AlertLedger

/-! ## 1. What the sentence sees -/

/-- The sets that the sentence is about, each in ascending order. -/
structure Summary where
  paths : List String
  arguments : List String
  users : List Nat
  deriving DecidableEq, Repr

/-- The sets that occur in a list of processes. -/
def Summary.of (ps : List ProcessSighting) : Summary where
  paths := Ascending.ofList (ps.map (·.path))
  arguments := Ascending.ofList ((ps.map (·.arguments)).filter (· ≠ ""))
  users := Ascending.ofList (ps.map (·.user.toNat))

/-! ## 2. Writing it -/

/-- A text between single quotes. -/
def inQuotes (s : String) : String := "'" ++ s ++ "'"

/-- Quoted items as a list in prose: commas between them, and a word before the last. -/
def prose : List String → String
  | [] => ""
  | [s] => inQuotes s
  | [s, t] => inQuotes s ++ " and " ++ inQuotes t
  | s :: rest => inQuotes s ++ ", " ++ prose rest

/-- The part of the sentence about binaries. -/
def Summary.binaryClause (s : Summary) : String :=
  (if s.paths.length = 1 then "Binary " else "Binaries ") ++ prose s.paths ++ " executed"

/-- The part of the sentence about arguments. -/
def Summary.argumentClause (s : Summary) : String :=
  match s.arguments with
  | [] => " without arguments"
  | [only] => " with arguments " ++ inQuotes only
  | many => " with " ++ Text.Decimal.text many.length ++ " different arguments"

/-- The part of the sentence about users. -/
def Summary.userClause (s : Summary) : String :=
  match s.users with
  | [only] => " under user ID " ++ Text.Decimal.text only
  | many => " under " ++ Text.Decimal.text many.length ++ " different user IDs"

/-- The sentence. -/
def Summary.sentence (s : Summary) : String := s.binaryClause ++ s.argumentClause ++ s.userClause

/-- The sentence about a list of processes; about none it is empty. -/
def sentenceFor (ps : List ProcessSighting) : String :=
  match ps with
  | [] => ""
  | ps => (Summary.of ps).sentence

@[simp] theorem sentenceFor_nil : sentenceFor [] = "" := rfl

theorem sentenceFor_of_ne_nil {ps : List ProcessSighting} (h : ps ≠ []) :
    sentenceFor ps = (Summary.of ps).sentence := by
  cases ps with
  | nil => exact absurd rfl h
  | cons p ps => rfl

/-- Process evidence under the sentence that its processes call for. -/
def ProcessEvidence.of (ps : List ProcessSighting) : ProcessEvidence := ⟨sentenceFor ps, ps⟩

@[simp] theorem ProcessEvidence.processes_of (ps : List ProcessSighting) :
    (ProcessEvidence.of ps).processes = ps := rfl

end AlertLedger
