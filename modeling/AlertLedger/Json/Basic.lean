/-!
# JSON values

The values of RFC 8259. An object keeps its members in the order of the text, and keeps a
repeated name as often as it stands there: whether a repetition matters is decided by whoever
reads the object (`AlertLedger.Json.Fields`). A number that is written with a fraction or an
exponent is kept as written, because no value of this library is made from one.

A text can also hold values that are well formed but cannot be taken over: half of a surrogate
pair, a number out of range, a nesting too deep. Such a value is `beyond`. It does no harm in a
field that is passed over; a record that takes over all its fields, known or not, must be without
one (`isComplete`).
-/

namespace AlertLedger

/-- A JSON value. -/
inductive Json where
  | null
  | bool (b : Bool)
  /-- A number written without fraction and exponent. -/
  | integer (n : Int)
  /-- Any other number, negative zero included, as it is written. -/
  | decimal (text : List Char)
  | string (s : String)
  | array (items : List Json)
  | object (members : List (String × Json))
  /-- A value that is well formed but cannot be taken over. -/
  | beyond

namespace Json

mutual

/-- Whether every part of a value has been taken over. -/
def isComplete : Json → Bool
  | .beyond => false
  | .array xs => areComplete xs
  | .object ms => haveCompleteValues ms
  | _ => true
termination_by structural v => v

/-- Whether every part of some values has been taken over. -/
def areComplete : List Json → Bool
  | [] => true
  | x :: xs => x.isComplete && areComplete xs
termination_by structural xs => xs

/-- Whether every part of the values of some members has been taken over. -/
def haveCompleteValues : List (String × Json) → Bool
  | [] => true
  | (_, v) :: ms => v.isComplete && haveCompleteValues ms
termination_by structural ms => ms

end

theorem areComplete_eq_all (xs : List Json) : areComplete xs = xs.all isComplete := by
  induction xs with
  | nil => rfl
  | cons x xs ih => simp [areComplete, ih]

theorem haveCompleteValues_eq_all (ms : List (String × Json)) :
    haveCompleteValues ms = ms.all fun m => m.2.isComplete := by
  induction ms with
  | nil => rfl
  | cons m ms ih => simp [haveCompleteValues, ih]

@[simp] theorem isComplete_string (s : String) : isComplete (.string s) = true := rfl

@[simp] theorem isComplete_array (xs : List Json) :
    isComplete (.array xs) = xs.all isComplete := areComplete_eq_all xs

@[simp] theorem isComplete_object (ms : List (String × Json)) :
    isComplete (.object ms) = ms.all fun m => m.2.isComplete := haveCompleteValues_eq_all ms

/-- A natural number as a JSON value. -/
def ofNat (n : Nat) : Json := .integer n

/-- A list as an array of the forms of its entries. -/
def ofList {α : Type} (form : α → Json) (as : List α) : Json := .array (as.map form)

/-- The member for a value that an object leaves out when there is none. -/
def optionalMember {α : Type} (name : String) (form : α → Json) :
    Option α → List (String × Json)
  | none => []
  | some a => [(name, form a)]

@[simp] theorem optionalMember_none {α : Type} (name : String) (form : α → Json) :
    optionalMember name form none = [] := rfl

@[simp] theorem optionalMember_some {α : Type} (name : String) (form : α → Json) (a : α) :
    optionalMember name form (some a) = [(name, form a)] := rfl

end Json

end AlertLedger
