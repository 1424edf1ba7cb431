import AlertLedger.Proofs.Json.Tokens

/-!
# Values read back

A value that is written in either layout is read back from its text (`read?_compact`,
`read?_pretty`), if it is made of values that have been taken over, nests no deeper than the reader
follows, and holds no integer but those a double holds exactly (`fits`). The proof runs along the
value. The functions of the reader that call each other count down from a bound, and need one step
for each value and one for each entry (`steps`); a text has at least half as many characters.
-/

namespace AlertLedger.Json

/-! ## 1. Values that fit, and the steps it takes to read them -/

mutual

/-- Whether a value is read back from its text where so many arrays and objects may be opened. -/
def fits : Json → Nat → Bool
  | .null, _ => true
  | .bool _, _ => true
  | .integer n, _ => n.natAbs < 2 ^ 53
  | .decimal _, _ => false
  | .string _, _ => true
  | .array xs, room => 0 < room && itemsFit xs (room - 1)
  | .object ms, room => 0 < room && membersFit ms (room - 1)
  | .beyond, _ => false
termination_by structural v => v

/-- Whether some values are read back. -/
def itemsFit : List Json → Nat → Bool
  | [], _ => true
  | x :: xs, room => x.fits room && itemsFit xs room
termination_by structural xs => xs

/-- Whether the values of some members are read back. -/
def membersFit : List (String × Json) → Nat → Bool
  | [], _ => true
  | (_, v) :: ms, room => v.fits room && membersFit ms room
termination_by structural ms => ms

end

mutual

/-- How often the reader calls itself for a value. -/
def steps : Json → Nat
  | .array xs => 1 + itemSteps xs
  | .object ms => 1 + memberSteps ms
  | _ => 1
termination_by structural v => v

/-- How often the reader calls itself for some entries. -/
def itemSteps : List Json → Nat
  | [] => 0
  | x :: xs => 1 + x.steps + itemSteps xs
termination_by structural xs => xs

/-- How often the reader calls itself for some members. -/
def memberSteps : List (String × Json) → Nat
  | [] => 0
  | (_, v) :: ms => 1 + v.steps + memberSteps ms
termination_by structural ms => ms

end

theorem itemsFit_eq_all (xs : List Json) (room : Nat) :
    itemsFit xs room = xs.all fun x => x.fits room := by
  induction xs with
  | nil => rfl
  | cons x xs ih => simp only [itemsFit, ih, List.all_cons]

theorem membersFit_eq_all (ms : List (String × Json)) (room : Nat) :
    membersFit ms room = ms.all fun m => m.2.fits room := by
  induction ms with
  | nil => rfl
  | cons m ms ih => simp only [membersFit, ih, List.all_cons]

mutual

/-- **A text has at least half as many characters as its reading has steps.** -/
theorem steps_le_length (l : Layout) : ∀ (v : Json) (depth : Nat),
    v.steps ≤ 2 * (render l depth v).length + 1
  | .null, _ | .bool _, _ | .integer _, _ | .decimal _, _ | .string _, _ | .beyond, _ => by
    simp only [steps]
    omega
  | .array [], _ | .object [], _ => by
    simp only [steps, itemSteps, memberSteps]
    omega
  | .array (x :: xs), depth => by
    have hx := steps_le_length l x (depth + 1)
    have hxs := itemSteps_le_length l xs (depth + 1)
    simp only [steps, itemSteps, render, List.length_cons, List.length_append]
    omega
  | .object ((name, v) :: ms), depth => by
    have hv := steps_le_length l v (depth + 1)
    have hms := memberSteps_le_length l ms (depth + 1)
    simp only [steps, memberSteps, render, List.length_cons, List.length_append]
    omega
termination_by structural v => v

theorem itemSteps_le_length (l : Layout) : ∀ (xs : List Json) (depth : Nat),
    itemSteps xs ≤ 2 * (renderItems l depth xs).length
  | [], _ => Nat.zero_le _
  | x :: xs, depth => by
    have hx := steps_le_length l x depth
    have hxs := itemSteps_le_length l xs depth
    simp only [itemSteps, renderItems, List.length_cons, List.length_append]
    omega
termination_by structural xs => xs

theorem memberSteps_le_length (l : Layout) : ∀ (ms : List (String × Json)) (depth : Nat),
    memberSteps ms ≤ 2 * (renderMembers l depth ms).length
  | [], _ => Nat.zero_le _
  | (name, v) :: ms, depth => by
    have hv := steps_le_length l v depth
    have hms := memberSteps_le_length l ms depth
    simp only [memberSteps, renderMembers, List.length_cons, List.length_append]
    omega
termination_by structural ms => ms

end

/-! ## 2. Blanks, and how a value starts -/

theorem skipSpace_append {blanks : List Char} (h : blanks.all isSpace = true) {c : Char}
    (hc : isSpace c = false) (cs : List Char) : skipSpace (blanks ++ c :: cs) = c :: cs := by
  rw [skipSpace, List.dropWhile_append_of_pos (List.all_eq_true.mp h)]
  simp [hc]

theorem skipSpace_cons {c : Char} (hc : isSpace c = false) (cs : List Char) :
    skipSpace (c :: cs) = c :: cs := @skipSpace_append [] rfl c hc cs

theorem all_isSpace_lineBreak (l : Layout) (depth : Nat) :
    (l.lineBreak depth).all isSpace = true := by
  cases l with
  | compact => rfl
  | indented =>
    simp only [Layout.lineBreak, List.all_cons, List.all_replicate, Bool.and_eq_true]
    exact ⟨by decide, by split <;> decide⟩

/-- A numeral starts with a digit or a minus sign. -/
theorem exists_renderInteger_eq_cons (n : Int) :
    ∃ c cs, renderInteger n = c :: cs ∧ (Text.Decimal.isDigit c = true ∨ c = '-') := by
  cases n with
  | ofNat n =>
    obtain ⟨c, cs, hc, hdigit⟩ := exists_digits_eq_cons n
    exact ⟨c, cs, hc, .inl hdigit⟩
  | negSucc n => exact ⟨_, _, rfl, .inr rfl⟩

/-- A character that starts a numeral is none of those that mean something else to the reader. -/
theorem starts_numeral {c : Char} (h : Text.Decimal.isDigit c = true ∨ c = '-') :
    isSpace c = false ∧ c ≠ 'n' ∧ c ≠ 't' ∧ c ≠ 'f' ∧ c ≠ '"' ∧ c ≠ '[' ∧ c ≠ ']' ∧ c ≠ '\x7b' := by
  have hspace : isSpace c = false := by
    apply Bool.eq_false_iff.mpr
    intro hc
    simp only [isSpace, Bool.or_eq_true, decide_eq_true_eq] at hc
    rcases hc with ((rfl | rfl) | rfl) | rfl <;> revert h <;> decide
  refine ⟨hspace, ?_, ?_, ?_, ?_, ?_, ?_, ?_⟩ <;> (intro e; subst e; revert h; decide)

/-- A value starts with its own first character, never with a blank or a closing bracket. -/
theorem exists_render_eq_cons (l : Layout) (depth : Nat) {v : Json} {room : Nat}
    (h : v.fits room = true) :
    ∃ c cs, render l depth v = c :: cs ∧ isSpace c = false ∧ c ≠ ']' := by
  cases v with
  | null => exact ⟨_, _, rfl, by decide, by decide⟩
  | bool b => cases b <;> exact ⟨_, _, rfl, by decide, by decide⟩
  | integer n =>
    obtain ⟨c, cs, hc, hstart⟩ := exists_renderInteger_eq_cons n
    obtain ⟨hspace, _, _, _, _, _, hclose, _⟩ := starts_numeral hstart
    exact ⟨c, cs, hc, hspace, hclose⟩
  | decimal text => cases h
  | string s => exact ⟨_, _, rfl, by decide, by decide⟩
  | array xs => cases xs <;> exact ⟨_, _, rfl, by decide, by decide⟩
  | object ms => cases ms <;> exact ⟨_, _, rfl, by decide, by decide⟩
  | beyond => cases h

theorem skipSpace_render {blanks : List Char} (hblanks : blanks.all isSpace = true) (l : Layout)
    (depth : Nat) {v : Json} {room : Nat} (h : v.fits room = true) (rest : List Char) :
    skipSpace (blanks ++ (render l depth v ++ rest)) = render l depth v ++ rest := by
  obtain ⟨c, cs, hc, hspace, _⟩ := exists_render_eq_cons l depth h
  rw [hc, List.cons_append]
  exact skipSpace_append hblanks hspace (cs ++ rest)

/-! ## 3. One step of the reader -/

section Step

variable {blanks : List Char} (hblanks : blanks.all isSpace = true) (n room : Nat)
include hblanks

theorem readValue_integer {k : Int} (hk : k.natAbs < 2 ^ 53) {rest : List Char}
    (hrest : EndsNumeral rest) :
    readValue (n + 1) room (blanks ++ (renderInteger k ++ rest)) = some (.integer k, rest) := by
  have hread := readNumber_renderInteger hk hrest
  obtain ⟨c, cs, hc, hstart⟩ := exists_renderInteger_eq_cons k
  obtain ⟨hspace, hn, ht, hf, hquote, hbracket, _, hbrace⟩ := starts_numeral hstart
  rw [hc, List.cons_append] at hread ⊢
  rw [readValue, skipSpace_append hblanks hspace, ← hread]
  split <;> simp_all

theorem readValue_string (s : String) (rest : List Char) :
    readValue (n + 1) room (blanks ++ (renderString s ++ rest)) = some (.string s, rest) := by
  obtain ⟨text, htext, hread⟩ := readString_renderString s rest
  rw [htext, readValue, skipSpace_append hblanks (by decide)]
  simp only [hread, Option.map_some, ofString?]

end Step

theorem within_of_pos {room : Nat} (h : 0 < room) (v : Json) : within room v = v :=
  if_neg (Nat.ne_of_gt h)

section Nested

variable {blanks gap : List Char} (hblanks : blanks.all isSpace = true)
  (hgap : gap.all isSpace = true) {n room : Nat} (hroom : 0 < room) {cs rest : List Char}
include hblanks hgap hroom

/-- An array with entries is read from its first entry on. -/
theorem readValue_array (l : Layout) (depth : Nat) {x : Json} {r : Nat} (hx : x.fits r = true)
    {xs : List Json} (hread : readItems n (room - 1) (render l depth x ++ cs) = some (xs, rest)) :
    readValue (n + 1) room (blanks ++ '[' :: (gap ++ (render l depth x ++ cs))) =
      some (.array xs, rest) := by
  -- the reader looks first for the bracket that closes an empty array
  have hopen : ∀ rest, render l depth x ++ cs ≠ ']' :: rest := by
    obtain ⟨c, ds, hc, _, hne⟩ := exists_render_eq_cons l depth hx
    intro rest e
    rw [hc] at e
    exact hne (List.cons.inj e).1
  rw [readValue, skipSpace_append hblanks (by decide)]
  simp only [skipSpace_render hgap l depth hx, hread, Option.map_some, within_of_pos hroom]

/-- An object with members is read from the quote of its first name on. -/
theorem readValue_object (name : String) {ms : List (String × Json)}
    (hread : readMembers n (room - 1) (renderString name ++ cs) = some (some ms, rest)) :
    readValue (n + 1) room (blanks ++ '\x7b' :: (gap ++ (renderString name ++ cs))) =
      some (.object ms, rest) := by
  obtain ⟨text, htext, _⟩ := readString_renderString name cs
  rw [htext] at hread
  rw [htext, readValue, skipSpace_append hblanks (by decide)]
  simp only [skipSpace_append hgap (c := '"') (by decide)]
  show Option.map _ (readMembers n (room - 1) ('"' :: text)) = _
  rw [hread, Option.map_some, within_of_pos hroom]
  rfl

end Nested

/-- The entries that follow one: after a comma, or none before the bracket that closes. -/
def readMoreItems (n room : Nat) (cs : List Char) : Option (List Json × List Char) :=
  match skipSpace cs with
  | ',' :: rest => readItems n room rest
  | ']' :: rest => some ([], rest)
  | _ => none

theorem readItems_cons {n room : Nat} {cs after rest : List Char} {x : Json} {xs : List Json}
    (hx : readValue n room cs = some (x, after))
    (hxs : readMoreItems n room after = some (xs, rest)) :
    readItems (n + 1) room cs = some (x :: xs, rest) := by
  rw [readItems, hx]
  simp only [readMoreItems, Option.bind_eq_bind, Option.bind_some] at hxs ⊢
  generalize skipSpace after = following at hxs ⊢
  split at hxs
  · simp only [hxs, Option.bind_some]
  · cases hxs
    rfl
  · cases hxs

/-- The members that follow one. -/
def readMoreMembers (n room : Nat) (cs : List Char) :
    Option (Option (List (String × Json)) × List Char) :=
  match skipSpace cs with
  | ',' :: rest => readMembers n room rest
  | '\x7d' :: rest => some (some [], rest)
  | _ => none

theorem readMembers_cons {n room : Nat} {blanks cs after rest : List Char}
    (hblanks : blanks.all isSpace = true) (l : Layout) (name : String) {v : Json}
    {ms : List (String × Json)}
    (hv : ∀ gap, gap.all isSpace = true → readValue n room (gap ++ cs) = some (v, after))
    (hms : readMoreMembers n room after = some (some ms, rest)) :
    readMembers (n + 1) room (blanks ++ (renderString name ++ (l.colon ++ cs))) =
      some (some ((name, v) :: ms), rest) := by
  obtain ⟨gap, hgap, hcolon⟩ :
      ∃ gap : List Char, gap.all isSpace = true ∧ l.colon ++ cs = ':' :: (gap ++ cs) := by
    cases l with
    | compact => exact ⟨[], rfl, rfl⟩
    | indented => exact ⟨[' '], by decide, rfl⟩
  obtain ⟨text, htext, hread⟩ := readString_renderString name (l.colon ++ cs)
  rw [htext, readMembers, skipSpace_append hblanks (by decide)]
  simp only [hread, Option.bind_eq_bind, Option.bind_some, hcolon, skipSpace_cons (c := ':') rfl,
    hv gap hgap]
  simp only [readMoreMembers] at hms
  generalize skipSpace after = following at hms ⊢
  split at hms
  · simp only [hms, Option.bind_some]
    rfl
  · cases hms
    rfl
  · cases hms

/-! ## 4. Values -/

/-- What follows an entry ends a numeral: a comma, or what closes the array. -/
theorem endsNumeral_renderItems (l : Layout) (depth : Nat) (xs : List Json) {rest : List Char}
    (h : EndsNumeral rest) : EndsNumeral (renderItems l depth xs ++ rest) := by
  cases xs with
  | nil => exact h
  | cons x xs => exact endsNumeral_cons (by decide) _

theorem endsNumeral_renderMembers (l : Layout) (depth : Nat) (ms : List (String × Json))
    {rest : List Char} (h : EndsNumeral rest) : EndsNumeral (renderMembers l depth ms ++ rest) := by
  cases ms with
  | nil => exact h
  | cons m ms => exact endsNumeral_cons (by decide) _

theorem endsNumeral_lineBreak (l : Layout) (depth : Nat) {c : Char}
    (hc : Text.Decimal.isDigit c = false ∧ c ≠ '.' ∧ c ≠ 'e' ∧ c ≠ 'E') (rest : List Char) :
    EndsNumeral (l.lineBreak depth ++ c :: rest) := by
  cases l with
  | compact => exact endsNumeral_cons hc rest
  | indented => exact endsNumeral_cons (by decide) _

mutual

/-- **A value that fits is read back**, with blanks before it, unless the text goes on with what
could belong to it. -/
theorem readValue_render (l : Layout) : ∀ (v : Json) (depth n room : Nat) (blanks rest : List Char),
    v.fits room = true → v.steps ≤ n → blanks.all isSpace = true → EndsNumeral rest →
      readValue n room (blanks ++ (render l depth v ++ rest)) = some (v, rest)
  | v, _, 0, _, _, _, _, hn, _, _ => by
    cases v <;> simp only [steps] at hn <;> omega
  | .null, depth, n + 1, room, blanks, rest, h, _, hblanks, _ => by
    rw [readValue, skipSpace_render hblanks l depth h]
    rfl
  | .bool true, depth, n + 1, room, blanks, rest, h, _, hblanks, _ => by
    rw [readValue, skipSpace_render hblanks l depth h]
    rfl
  | .bool false, depth, n + 1, room, blanks, rest, h, _, hblanks, _ => by
    rw [readValue, skipSpace_render hblanks l depth h]
    rfl
  | .integer k, _, n + 1, room, _, _, h, _, hblanks, hrest =>
    readValue_integer hblanks n room (of_decide_eq_true h) hrest
  | .string s, _, n + 1, room, _, rest, _, _, hblanks, _ =>
    readValue_string hblanks n room s rest
  | .array [], depth, n + 1, room, blanks, rest, h, _, hblanks, _ => by
    have hroom : 0 < room := of_decide_eq_true (Bool.and_eq_true_iff.mp h).1
    rw [readValue, skipSpace_render hblanks l depth h]
    show some (within room (.array []), rest) = _
    rw [within_of_pos hroom]
  | .object [], depth, n + 1, room, blanks, rest, h, _, hblanks, _ => by
    have hroom : 0 < room := of_decide_eq_true (Bool.and_eq_true_iff.mp h).1
    rw [readValue, skipSpace_render hblanks l depth h]
    show some (within room (.object []), rest) = _
    rw [within_of_pos hroom]
  | .array (x :: xs), depth, n + 1, room, blanks, rest, h, hn, hblanks, _ => by
    obtain ⟨hroom, hx, hxs⟩ : 0 < room ∧ x.fits (room - 1) = true ∧
        itemsFit xs (room - 1) = true := by
      simpa only [fits, itemsFit, Bool.and_eq_true, decide_eq_true_eq] using h
    simp only [steps, itemSteps] at hn
    obtain ⟨n, rfl⟩ := Nat.exists_eq_succ_of_ne_zero (show n ≠ 0 by omega)
    let after := renderItems l (depth + 1) xs ++ (l.lineBreak depth ++ ']' :: rest)
    have htext : render l depth (.array (x :: xs)) ++ rest =
        '[' :: (l.lineBreak (depth + 1) ++ (render l (depth + 1) x ++ after)) := by
      simp [after, render]
    have hafter : EndsNumeral after :=
      endsNumeral_renderItems l _ xs (endsNumeral_lineBreak l depth (by decide) rest)
    have hreadx : readValue n (room - 1) (render l (depth + 1) x ++ after) = some (x, after) :=
      readValue_render l x (depth + 1) n (room - 1) [] after hx (by omega) rfl hafter
    have hreadxs := readMoreItems_render l xs depth n (room - 1) rest hxs (by omega)
    rw [htext]
    exact readValue_array hblanks (all_isSpace_lineBreak l _) hroom l _ hx
      (readItems_cons hreadx hreadxs)
  | .object ((name, v) :: ms), depth, n + 1, room, blanks, rest, h, hn, hblanks, _ => by
    obtain ⟨hroom, hv, hms⟩ : 0 < room ∧ v.fits (room - 1) = true ∧
        membersFit ms (room - 1) = true := by
      simpa only [fits, membersFit, Bool.and_eq_true, decide_eq_true_eq] using h
    simp only [steps, memberSteps] at hn
    obtain ⟨n, rfl⟩ := Nat.exists_eq_succ_of_ne_zero (show n ≠ 0 by omega)
    let after := renderMembers l (depth + 1) ms ++ (l.lineBreak depth ++ '\x7d' :: rest)
    have htext : render l depth (.object ((name, v) :: ms)) ++ rest =
        '\x7b' :: (l.lineBreak (depth + 1) ++ (renderString name ++ (l.colon ++
          (render l (depth + 1) v ++ after)))) := by
      simp [after, render]
    have hafter : EndsNumeral after :=
      endsNumeral_renderMembers l _ ms (endsNumeral_lineBreak l depth (by decide) rest)
    have hreadv (gap : List Char) (hgap : gap.all isSpace = true) :=
      readValue_render l v (depth + 1) n (room - 1) gap after hv (by omega) hgap hafter
    have hreadms := readMoreMembers_render l ms depth n (room - 1) rest hms (by omega)
    have hread : readMembers (n + 1) (room - 1)
        ([] ++ (renderString name ++ (l.colon ++ (render l (depth + 1) v ++ after)))) =
          some (some ((name, v) :: ms), rest) := readMembers_cons rfl l name hreadv hreadms
    rw [htext]
    exact readValue_object hblanks (all_isSpace_lineBreak l _) hroom name hread
termination_by structural v => v

theorem readMoreItems_render (l : Layout) : ∀ (xs : List Json) (depth n room : Nat)
    (rest : List Char), itemsFit xs room = true → itemSteps xs ≤ n →
      readMoreItems n room (renderItems l (depth + 1) xs ++ (l.lineBreak depth ++ ']' :: rest)) =
        some (xs, rest)
  | [], depth, n, room, rest, _, _ => by
    show readMoreItems n room (l.lineBreak depth ++ ']' :: rest) = _
    rw [readMoreItems, skipSpace_append (all_isSpace_lineBreak l depth) (by decide)]
    rfl
  | x :: xs, depth, n, room, rest, h, hn => by
    obtain ⟨hx, hxs⟩ := Bool.and_eq_true_iff.mp h
    simp only [itemSteps] at hn
    obtain ⟨n, rfl⟩ := Nat.exists_eq_succ_of_ne_zero (show n ≠ 0 by omega)
    let after := renderItems l (depth + 1) xs ++ (l.lineBreak depth ++ ']' :: rest)
    have htext : renderItems l (depth + 1) (x :: xs) ++ (l.lineBreak depth ++ ']' :: rest) =
        ',' :: (l.lineBreak (depth + 1) ++ (render l (depth + 1) x ++ after)) := by
      simp [after, renderItems]
    have hafter : EndsNumeral after :=
      endsNumeral_renderItems l _ xs (endsNumeral_lineBreak l depth (by decide) rest)
    have hreadx := readValue_render l x (depth + 1) n room (l.lineBreak (depth + 1)) after hx
      (by omega) (all_isSpace_lineBreak l _) hafter
    have hreadxs := readMoreItems_render l xs depth n room rest hxs (by omega)
    rw [htext, readMoreItems, skipSpace_cons (by decide)]
    exact readItems_cons hreadx hreadxs
termination_by structural xs => xs

theorem readMoreMembers_render (l : Layout) : ∀ (ms : List (String × Json)) (depth n room : Nat)
    (rest : List Char), membersFit ms room = true → memberSteps ms ≤ n →
      readMoreMembers n room
          (renderMembers l (depth + 1) ms ++ (l.lineBreak depth ++ '\x7d' :: rest)) =
        some (some ms, rest)
  | [], depth, n, room, rest, _, _ => by
    show readMoreMembers n room (l.lineBreak depth ++ '\x7d' :: rest) = _
    rw [readMoreMembers, skipSpace_append (all_isSpace_lineBreak l depth) (by decide)]
    rfl
  | (name, v) :: ms, depth, n, room, rest, h, hn => by
    obtain ⟨hv, hms⟩ := Bool.and_eq_true_iff.mp h
    simp only [memberSteps] at hn
    obtain ⟨n, rfl⟩ := Nat.exists_eq_succ_of_ne_zero (show n ≠ 0 by omega)
    let after := renderMembers l (depth + 1) ms ++ (l.lineBreak depth ++ '\x7d' :: rest)
    have htext : renderMembers l (depth + 1) ((name, v) :: ms) ++
          (l.lineBreak depth ++ '\x7d' :: rest) =
        ',' :: (l.lineBreak (depth + 1) ++ (renderString name ++ (l.colon ++
          (render l (depth + 1) v ++ after)))) := by
      simp [after, renderMembers]
    have hafter : EndsNumeral after :=
      endsNumeral_renderMembers l _ ms (endsNumeral_lineBreak l depth (by decide) rest)
    have hreadv (gap : List Char) (hgap : gap.all isSpace = true) :=
      readValue_render l v (depth + 1) n room gap after hv (by omega) hgap hafter
    have hreadms := readMoreMembers_render l ms depth n room rest hms (by omega)
    rw [htext, readMoreMembers, skipSpace_cons (by decide)]
    exact readMembers_cons (all_isSpace_lineBreak l _) l name hreadv hreadms
termination_by structural ms => ms

end

/-! ## 5. Whole texts -/

section Texts

variable {v : Json} (h : v.fits nestingLimit = true)
include h

theorem read?_render (l : Layout) (depth : Nat) :
    read? (String.ofList (render l depth v)) = some v := by
  have hsteps := steps_le_length l v depth
  have hread := readValue_render l v depth (2 * (render l depth v).length + 2) nestingLimit [] []
    h (by omega) rfl endsNumeral_nil
  rw [List.nil_append, List.append_nil] at hread
  simp only [read?, String.toList_ofList, hread]
  rfl

/-- **A value that fits is read back from its text on one line.** -/
theorem read?_compact : read? v.compact = some v := read?_render h .compact 0

/-- **A value that fits is read back from its text over several lines.** -/
theorem read?_pretty : read? v.pretty = some v := read?_render h .indented 0

end Texts

end AlertLedger.Json
