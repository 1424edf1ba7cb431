import AlertLedger.Json.Basic

/-!
# Fields of an object

How a record is read from an object. A field the record knows may stand in the object once; a
field it does not know is passed over, however often it stands there. Three rules cover all
records: a field that must be there (`required`), one that may be left out or be null
(`optional`), and one that may be left out, but is not null, and then has a value of its own
(`defaulted`). Most records do not care what they pass over (`members?`); a record whose kind
stands among its fields takes over all of them first (`completeMembers?`).
-/

namespace AlertLedger.Json

/-- What an object holds under one name. -/
inductive Field where
  | absent
  | once (v : Json)
  | repeated

/-- The field with a name among the members of an object. -/
def field (name : String) (members : List (String × Json)) : Field :=
  match members.filter (·.1 = name) with
  | [] => .absent
  | [m] => .once m.2
  | _ => .repeated

/-- The members of an object. -/
def members? : Json → Option (List (String × Json))
  | .object ms => some ms
  | _ => none

/-- The members of an object every part of which has been taken over. -/
def completeMembers? (v : Json) : Option (List (String × Json)) :=
  if v.isComplete then v.members? else none

section Rules

variable {α : Type} (members : List (String × Json)) (name : String) (read : Json → Option α)

/-- A field that must be there. -/
def required : Option α :=
  match field name members with
  | .once v => read v
  | _ => none

/-- A field that may be left out or null. -/
def optional : Option (Option α) :=
  match field name members with
  | .absent => some none
  | .once .null => some none
  | .once v => (read v).map some
  | .repeated => none

/-- A field that may be left out, and then has the value given. -/
def defaulted (default : α) : Option α :=
  match field name members with
  | .absent => some default
  | .once v => read v
  | .repeated => none

end Rules

/-! ## Values of fields -/

/-- A string. -/
def asString? : Json → Option String
  | .string s => some s
  | _ => none

/-- A truth value. -/
def asBool? : Json → Option Bool
  | .bool b => some b
  | _ => none

/-- A natural number below a bound. -/
def asNatBelow? (bound : Nat) : Json → Option Nat
  | .integer (.ofNat n) => if n < bound then some n else none
  | _ => none

/-- A list, each entry read by one rule. -/
def asList? {α : Type} (read : Json → Option α) : Json → Option (List α)
  | .array xs => xs.mapM read
  | _ => none

@[simp] theorem asString?_string (s : String) : asString? (.string s) = some s := rfl

theorem asNatBelow?_ofNat {bound n : Nat} (h : n < bound) :
    asNatBelow? bound (ofNat n) = some n := by
  have e : ofNat n = .integer (.ofNat n) := rfl
  rw [e]
  simp [asNatBelow?, h]

end AlertLedger.Json
