import AlertLedger.Json.Fields
import AlertLedger.Proofs.Json.Values

/-!
# Members read back

What a reader finds under a name among the members that a writer has put together: the value of the
one member with that name (`field_cons_self`), whatever members of other names stand before it
(`field_cons_of_ne`). The same holds of a field that may be left out (`optional_cons_self`), as long
as its value is not null, and a list is read back entry by entry (`asList?_ofList`). An object fits
the reader of texts if the values of its members do, and needs one level of nesting more than they.
-/

namespace AlertLedger.Json

/-! ## 1. Finding a member -/

@[simp] theorem field_nil (name : String) : field name [] = .absent := by
  simp [field]

section Finding

variable {name other : String} (v : Json) (ms : List (String × Json))

@[simp] theorem field_cons_of_ne (h : other ≠ name) :
    field name ((other, v) :: ms) = field name ms := by
  simp [field, h]

@[simp] theorem field_cons_self (h : field name ms = .absent) :
    field name ((name, v) :: ms) = .once v := by
  have hnone : ms.filter (·.1 = name) = [] := by
    unfold field at h
    split at h
    · assumption
    · cases h
    · cases h
  simp [field, hnone]

variable {α : Type} (read : Json → Option α)

@[simp] theorem optional_nil : Json.optional [] name read = some none := by
  simp [Json.optional]

@[simp] theorem optional_cons_of_ne (h : other ≠ name) :
    Json.optional ((other, v) :: ms) name read = Json.optional ms name read := by
  simp [Json.optional, h]

@[simp] theorem optional_cons_self (h : field name ms = .absent) (hv : v ≠ .null) :
    Json.optional ((name, v) :: ms) name read = (read v).map some := by
  rw [Json.optional, field_cons_self v ms h]
  cases v with
  | null => exact absurd rfl hv
  | _ => rfl

end Finding

/-- A list is read back if its entries are. -/
theorem asList?_ofList {α : Type} {form : α → Json} {read : Json → Option α}
    (hread : ∀ a, read (form a) = some a) (as : List α) :
    asList? read (ofList form as) = some as := by
  show (as.map form).mapM read = some as
  induction as with
  | nil => rfl
  | cons a as ih => simp [hread, ih]

/-! ## 2. What fits -/

section Fitting

variable {room : Nat}

@[simp] theorem fits_string (s : String) : (Json.string s).fits room = true := rfl

theorem fits_ofNat {n : Nat} (h : n < 2 ^ 53) : (ofNat n).fits room = true := decide_eq_true h

@[simp] theorem fits_object (ms : List (String × Json)) :
    (Json.object ms).fits (room + 1) = ms.all fun m => m.2.fits room := by
  simp [fits, membersFit_eq_all]

theorem fits_ofList {α : Type} {form : α → Json} (h : ∀ a, (form a).fits room = true)
    (as : List α) : (ofList form as).fits (room + 1) = true := by
  simp [ofList, fits, itemsFit_eq_all, h]

theorem all_fits_optionalMember {α : Type} {form : α → Json} (h : ∀ a, (form a).fits room = true)
    (name : String) (o : Option α) :
    ((optionalMember name form o).all fun m => m.2.fits room) = true := by
  cases o with
  | none => rfl
  | some a => simp [h]

end Fitting

end AlertLedger.Json
