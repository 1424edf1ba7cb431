import AlertLedger.Proofs.Call.Keeping

/-!
# Races for the end of a call

A call is awaited together with three other things that can end it, one around the other: the timer
of the call, around both the deadline of the pass, and around these its cancellation. What is
awaited is looked at again and again (`Awaited`), and whatever is found there first counts. Each
look goes from the inside to the outside, but for the cancellation, which it begins with.

* `Call.settles_race`: so the first of the four to come ends the call; of those that one look finds,
  the one that is looked at first;
* `Bounds.map_ending`: that is what `Bounds.ending` says without any looks;
* `decides_timed`: which of them ends a call of timed collaborators, by the moments at which their
  timers go off. No timer goes off early, but it may go off late: a call that is answered after the
  time allowed for it, but before its timer goes off, is not cut short (`not_decides_exactly`).
-/

namespace AlertLedger

/-! ## 1. What is awaited -/

/-- What is awaited, as it is found look by look. The first look is made when it is started, and
look `m + 1` when `m` nanoseconds have passed. -/
def Awaited (α : Type) : Type := Nat → Option α

/-- The earlier of two events, the first of two at one moment. -/
def sooner {α : Type} : Option (Nat × α) → Option (Nat × α) → Option (Nat × α)
  | none, q => q
  | p, none => p
  | some x, some y => if x.1 ≤ y.1 then some x else some y

namespace Awaited

variable {α β : Type}

/-- The look that finds what is there a number of nanoseconds after the start. What is there at
once is found by the first look. -/
def look (m : Nat) : Nat := if m = 0 then 0 else m + 1

/-- What is there from a look on, or never. -/
def ready (n : Option Nat) (a : α) : Awaited α :=
  match n with
  | none => fun _ => none
  | some n => fun m => if n ≤ m then some a else none

/-- What is made of what is awaited. -/
def map (f : α → β) (x : Awaited α) : Awaited β := fun m => (x m).map f

/-- Either of two, the first of which is looked at first. -/
def orElse (x y : Awaited α) : Awaited α := fun m => (x m).or (y m)

/-- What is awaited as long as a timer has not gone off, and nothing any more when it has. The timer
is looked at last. -/
def within (timer : Option Nat) (x : Awaited α) : Awaited (Option α) :=
  (x.map some).orElse (ready (timer.map look) none)

/-- What the first look that finds something finds, and which look that is. -/
def Settles (x : Awaited α) : Option (Nat × α) → Prop
  | none => ∀ m, x m = none
  | some (n, a) => x n = some a ∧ ∀ m < n, x m = none

theorem settles_ready (n : Option Nat) (a : α) : (ready n a).Settles (n.map (·, a)) := by
  cases n with
  | none => exact fun _ => rfl
  | some n => exact ⟨if_pos (Nat.le_refl n), fun m hm => if_neg (Nat.not_le.mpr hm)⟩

theorem Settles.map {x : Awaited α} {p : Option (Nat × α)} (h : x.Settles p) (f : α → β) :
    (x.map f).Settles (p.map (Prod.map id f)) := by
  cases p with
  | none => exact fun m => congrArg (Option.map f) (h m)
  | some p =>
    obtain ⟨hfound, hbefore⟩ := h
    exact ⟨congrArg (Option.map f) hfound, fun m hm => congrArg (Option.map f) (hbefore m hm)⟩

/-- **Of two that are awaited the sooner counts.** -/
theorem Settles.orElse {x y : Awaited α} {p q : Option (Nat × α)} (hx : x.Settles p)
    (hy : y.Settles q) : (x.orElse y).Settles (sooner p q) := by
  have hleft : ∀ {m}, y m = none → (x.orElse y) m = x m := fun {m} h => by
    rw [Awaited.orElse, h, Option.or_none]
  have hright : ∀ {m}, x m = none → (x.orElse y) m = y m := fun {m} h => by
    rw [Awaited.orElse, h, Option.none_or]
  rcases p with _ | ⟨n, a⟩
  · have heq : x.orElse y = y := funext fun m => hright (hx m)
    rw [heq]
    exact hy
  · rcases q with _ | ⟨k, b⟩
    · have heq : x.orElse y = x := funext fun m => hleft (hy m)
      rw [heq]
      exact hx
    · obtain ⟨hfound, hbefore⟩ := hx
      obtain ⟨hfound', hbefore'⟩ := hy
      rw [sooner]
      split <;> rename_i hle
      · refine ⟨by rw [Awaited.orElse, hfound, Option.some_or], fun m hm => ?_⟩
        rw [hright (hbefore m hm), hbefore' m (Nat.lt_of_lt_of_le hm hle)]
      · have hlt : k < n := Nat.not_le.mp hle
        refine ⟨by rw [hright (hbefore k hlt), hfound'], fun m hm => ?_⟩
        rw [hright (hbefore m (Nat.lt_trans hm hlt)), hbefore' m hm]

theorem Settles.within {x : Awaited α} {p : Option (Nat × α)} (h : x.Settles p)
    (timer : Option Nat) : (x.within timer).Settles
      (sooner (p.map (Prod.map id some)) ((timer.map look).map (·, none))) :=
  (h.map some).orElse (settles_ready _ _)

/-- What is awaited settles in one way only. -/
theorem Settles.unique {x : Awaited α} {p q : Option (Nat × α)} (hp : x.Settles p)
    (hq : x.Settles q) : p = q := by
  rcases p with _ | ⟨n, a⟩ <;> rcases q with _ | ⟨k, b⟩
  · rfl
  · cases (hp k).symm.trans hq.1
  · cases (hq n).symm.trans hp.1
  · rcases Nat.lt_trichotomy n k with hlt | rfl | hlt
    · cases (hq.2 n hlt).symm.trans hp.1
    · rw [Option.some.inj (hp.1.symm.trans hq.1)]
    · cases (hp.2 k hlt).symm.trans hq.1

end Awaited

/-! ## 2. Sooner and later -/

section Sooner

variable {α β : Type} {p q r : Option (Nat × α)}

@[simp] theorem sooner_none_left : sooner none q = q := by
  cases q <;> rfl

@[simp] theorem sooner_none_right : sooner p none = p := by
  cases p <;> rfl

theorem sooner_some (x y : Nat × α) :
    sooner (some x) (some y) = if x.1 ≤ y.1 then some x else some y := rfl

theorem sooner_assoc (p q r : Option (Nat × α)) :
    sooner (sooner p q) r = sooner p (sooner q r) := by
  rcases p with _ | x
  · simp
  rcases q with _ | y
  · simp
  rcases r with _ | z
  · simp
  grind [sooner]

/-- Which event is sooner depends on nothing but the order of the moments. -/
theorem map_sooner {g : Nat → Nat} (hg : ∀ m n, g m ≤ g n ↔ m ≤ n) (f : α → β)
    (p q : Option (Nat × α)) : (sooner p q).map (Prod.map g f) =
      sooner (p.map (Prod.map g f)) (q.map (Prod.map g f)) := by
  rcases p with _ | x
  · simp
  rcases q with _ | y
  · simp
  rw [Option.map_some, Option.map_some, sooner_some, sooner_some]
  show (if x.1 ≤ y.1 then some x else some y).map _ = if g x.1 ≤ g y.1 then _ else _
  simp only [hg]
  split <;> rfl

theorem map_id_sooner (f : α → β) (p q : Option (Nat × α)) : (sooner p q).map (Prod.map id f) =
    sooner (p.map (Prod.map id f)) (q.map (Prod.map id f)) :=
  map_sooner (g := id) (fun _ _ => Iff.rfl) f p q

/-- What is found by the first look is found first. -/
theorem sooner_zero (a : α) (q : Option (Nat × α)) : sooner (some (0, a)) q = some (0, a) := by
  cases q with
  | none => rfl
  | some y => rw [sooner_some, if_pos (Nat.zero_le y.1)]

/-- Whether an event, if there is one, comes after a moment. -/
def Later (n : Nat) (p : Option (Nat × α)) : Prop := ∀ x ∈ p, n < x.1

theorem Later.sooner {n : Nat} (hp : Later n p) (hq : Later n q) : Later n (sooner p q) := by
  rcases p with _ | x
  · simpa using hq
  rcases q with _ | y
  · simpa using hp
  rw [sooner_some]
  split
  · exact hp
  · exact hq

theorem sooner_of_later_right {x : Nat × α} (h : Later x.1 q) : sooner (some x) q = some x := by
  rcases q with _ | y
  · rfl
  · exact if_pos (Nat.le_of_lt (h y rfl))

theorem sooner_of_later_left {x : Nat × α} (h : Later x.1 p) : sooner p (some x) = some x := by
  rcases p with _ | y
  · rfl
  · exact if_neg (Nat.not_le.mpr (h y rfl))

end Sooner

/-! ## 3. The race of a call -/

namespace Awaited

theorem look_le_look (m n : Nat) : look m ≤ look n ↔ m ≤ n := by
  unfold look
  split <;> split <;> omega

/-- What is awaited under the deadline of the pass and its cancellation. -/
def bounded {α : Type} (operation : String) (deadline cancel : Option Nat) (x : Awaited α) :
    Awaited (Except Interruption α) :=
  (ready cancel (.error .cancelled)).orElse <| (x.within deadline).map fun found =>
    match found with
    | some a => .ok a
    | none => .error (.deadline operation)

theorem Settles.bounded {α : Type} {x : Awaited α} {p : Option (Nat × α)} (h : x.Settles p)
    (operation : String) (deadline cancel : Option Nat) :
    (x.bounded operation deadline cancel).Settles
      (sooner (cancel.map (·, .error .cancelled))
        (sooner (p.map (Prod.map id .ok))
          (deadline.map fun m => (look m, .error (.deadline operation))))) := by
  have hinner := (h.within deadline).map fun found : Option α =>
    match found with
    | some a => (.ok a : Except Interruption α)
    | none => .error (.deadline operation)
  rw [map_id_sooner, Option.map_map, Option.map_map, Option.map_map] at hinner
  exact (settles_ready cancel _).orElse hinner

end Awaited

open Awaited

namespace Call

variable (c : Call)

/-- The race of a call: its answer against the time allowed for it, which is kept by a timer, the
deadline of the pass, and the look that finds it cancelled. -/
def race (limit : Option (Span × Nat)) (deadline cancel : Option Nat) (x : Awaited c.Answer) :
    Awaited (Except Interruption c.Answer) :=
  match limit with
  | none => x.bounded c.operation deadline cancel
  | some (allowed, timer) =>
    ((x.within (some timer)).bounded c.operation deadline cancel).map fun result =>
      result.map (·.getD (c.timeoutAnswer allowed))

/-- Which comes first: the look that finds the pass cancelled, the answer, the timer of the call or
the deadline; and what the pass learns then. -/
def first (own : c.Answer) (answer : Option Nat) (limit : Option (Span × Nat))
    (deadline cancel : Option Nat) : Option (Nat × Except Interruption c.Answer) :=
  sooner (cancel.map fun n => (n, .error .cancelled)) <|
    sooner (answer.map fun m => (look m, .ok own)) <|
    sooner (limit.map fun l => (look l.2, .ok (c.timeoutAnswer l.1)))
      (deadline.map fun m => (look m, .error (.deadline c.operation)))

variable {c} (own : c.Answer) (answer : Option Nat) (limit : Option (Span × Nat))
  (deadline cancel : Option Nat)

/-- **The first to come ends a call.** -/
theorem settles_race : (c.race limit deadline cancel (ready (answer.map look) own)).Settles
    (c.first own answer limit deadline cancel) := by
  have hown := settles_ready (answer.map look) own
  rw [Option.map_map] at hown
  rw [first]
  cases limit with
  | none =>
    have hrace := hown.bounded c.operation deadline cancel
    rw [Option.map_map] at hrace
    rw [Option.map_none, sooner_none_left]
    exact hrace
  | some timed =>
    obtain ⟨allowed, timer⟩ := timed
    have hrace := ((hown.within (some timer)).bounded c.operation deadline cancel).map
      fun result => result.map (·.getD (c.timeoutAnswer allowed))
    simp only [map_id_sooner, sooner_assoc, Option.map_map] at hrace
    exact hrace

/-- A pass that is found cancelled by the first look learns nothing else. -/
theorem first_of_cancelled :
    c.first own answer limit deadline (some 0) = some (0, .error .cancelled) := by
  rw [first, Option.map_some, sooner_zero]

end Call

/-! ## 4. Which bound ends a call -/

/-- Whether a moment comes before another, or the other never comes. -/
def Before (m : Nat) (moment : Option Nat) : Prop := ∀ n ∈ moment, m < n

/-- The look that finds a pass cancelled: the first if it was cancelled before the call, and the one
after the moment if it is cancelled while the call is under way. -/
def cancelLook (before : Bool) (moment : Option Nat) : Option Nat :=
  if before then some 0 else moment.map (· + 1)

section Later

variable {α β : Type} {m : Nat} {moment : Option Nat}

theorem later_look {timers : Option β} {f : β → Nat} (h : ∀ x ∈ timers, m < f x) (g : β → α) :
    Later (look m) (timers.map fun x => (look (f x), g x)) := by
  intro y hy
  obtain ⟨x, hx, rfl⟩ := Option.map_eq_some_iff.mp hy
  have hle := look_le_look (f x) m
  have hlt := h x hx
  show look m < look (f x)
  omega

/-- While a call is under way, its cancellation is found by no look before that of its moment, and
by none that is made at once. -/
theorem later_cancelLook (h : m = 0 ∨ Before m moment) (a : α) :
    Later (look m) ((cancelLook false moment).map fun n => (n, a)) := by
  intro y hy
  obtain ⟨n, hn, rfl⟩ := Option.map_eq_some_iff.mp hy
  obtain ⟨k, hk, rfl⟩ := Option.map_eq_some_iff.mp hn
  show look m < k + 1
  unfold look
  rcases h with rfl | h
  · exact Nat.succ_pos k
  · have hlt := h k hk
    split <;> omega

/-- Nor does a later moment come before the look that finds the call cancelled. -/
theorem later_succ {timers : Option β} {f : β → Nat} (h : ∀ x ∈ timers, m < f x) (g : β → α) :
    Later (m + 1) (timers.map fun x => (look (f x), g x)) := by
  intro y hy
  obtain ⟨x, hx, rfl⟩ := Option.map_eq_some_iff.mp hy
  have hlt := h x hx
  show m + 1 < look (f x)
  rw [look, if_neg (by omega)]
  omega

end Later

/-- Which of its bounds ends a call: `own` is the answer it would have by itself, `limit` the time
allowed for it, and `b` says when each of them comes; `before` says whether the pass had been
cancelled when it came to the call. -/
structure Decides (c : Call) (own : c.Answer) (limit : Option Span) (b : Bounds) (before : Bool)
    (race : Awaited (Except Interruption c.Answer)) : Prop where
  /-- A pass that has been cancelled ends, even where the call would be answered at once. -/
  already : before = true → race.Settles (some (0, .error .cancelled))
  /-- A call that is answered at once, or before all bounds, has its own answer. -/
  answered : before = false → ∀ m ∈ b.answer,
    m = 0 ∨ Before m b.limit ∧ Before m b.deadline ∧ Before m b.cancel →
    race.Settles (some (look m, .ok own))
  /-- A call that outlives the time allowed for it fails by itself, and the pass goes on. -/
  timedOut : before = false → ∀ m ∈ b.limit, ∀ allowed ∈ limit,
    Before m b.answer → Before m b.deadline → Before m b.cancel →
    race.Settles (some (look m, .ok (c.failure (.ofTimeout ⟨c.operation, allowed⟩)
      (.timeout ⟨c.operation, allowed⟩))))
  /-- The deadline ends the pass, -/
  deadline : before = false → ∀ m ∈ b.deadline,
    Before m b.answer → Before m b.limit → Before m b.cancel →
    race.Settles (some (look m, .error (.deadline c.operation)))
  /-- and so does its cancellation. -/
  cancelled : before = false → ∀ m ∈ b.cancel,
    Before m b.answer → Before m b.limit → Before m b.deadline →
    race.Settles (some (m + 1, .error .cancelled))

theorem Call.timeoutAnswer_eq_failure (c : Call) (limit : Span) : c.timeoutAnswer limit =
    c.failure (.ofTimeout ⟨c.operation, limit⟩) (.timeout ⟨c.operation, limit⟩) := by
  cases c <;> rfl

/-- **Whatever the moments are**, the bound that comes strictly first ends a call. -/
theorem decides_race {c : Call} (own : c.Answer) (answer : Option Nat)
    (limit : Option (Span × Nat)) (deadline cancel : Option Nat) (before : Bool) :
    Decides c own (limit.map (·.1)) ⟨answer, limit.map (·.2), deadline, cancel⟩ before
      (c.race limit deadline (cancelLook before cancel) (ready (answer.map look) own)) := by
  have hrace := Call.settles_race own answer limit deadline (cancelLook before cancel)
  have htimer : ∀ {m}, Before m (limit.map (·.2)) → ∀ l ∈ limit, m < l.2 := fun h l hl =>
    h l.2 (Option.mem_map_of_mem _ hl)
  refine ⟨fun hbefore => ?_, fun hbefore m hm h => ?_,
    fun hbefore m hm allowed hallowed ha hd hc => ?_, fun hbefore m hm ha hl hc => ?_,
    fun hbefore m hm ha hl hd => ?_⟩ <;> subst hbefore
  · rwa [cancelLook, if_pos rfl, Call.first_of_cancelled] at hrace
  all_goals rw [Call.first] at hrace
  · obtain rfl : answer = some m := hm
    have hcancel := later_cancelLook (h.imp_right fun h => h.2.2)
      (.error .cancelled : Except Interruption c.Answer)
    simp only [Option.map_some] at hrace
    rcases h with rfl | ⟨hl, hd, _⟩
    · rwa [show look 0 = 0 from rfl, sooner_zero, sooner_of_later_left hcancel] at hrace
    · rwa [sooner_of_later_right (x := (look m, _))
          ((later_look (htimer hl) _).sooner (later_look hd _)),
        sooner_of_later_left hcancel] at hrace
  · obtain ⟨⟨a, timer⟩, rfl, rfl⟩ := Option.map_eq_some_iff.mp hm
    obtain rfl : a = allowed := Option.some.inj hallowed
    rwa [Option.map_some, sooner_of_later_right (later_look hd _),
      sooner_of_later_left (later_look ha _),
      sooner_of_later_left (later_cancelLook (.inr hc) _), c.timeoutAnswer_eq_failure] at hrace
  · obtain rfl : deadline = some m := hm
    rwa [Option.map_some, sooner_of_later_left (later_look (htimer hl) _),
      sooner_of_later_left (later_look ha _),
      sooner_of_later_left (later_cancelLook (.inr hc) _)] at hrace
  · obtain rfl : cancel = some m := hm
    rwa [cancelLook, if_neg Bool.false_ne_true, Option.map_some, Option.map_some,
      sooner_of_later_right ((later_succ ha _).sooner
        ((later_succ (htimer hl) _).sooner (later_succ hd _)))] at hrace

/-! ## 5. Calls of timed collaborators -/

/-- What the pass learns from what became of a call. -/
def Attendance.result {α : Type} : Attendance α → Except Interruption α
  | .answered a => .ok a
  | .cut i => .error i
  | .refused i => .error i

/-- What the pass learns when a call ends. -/
def Call.result (c : Call) (own : c.Answer) (limit : Option Span) :
    Ending → Except Interruption c.Answer
  | .answered => .ok own
  | .timedOut => .ok (c.timeoutAnswer (limit.getD .zero))
  | .deadline => .error (.deadline c.operation)
  | .cancelled => .error .cancelled

theorem Bounds.earlier_eq_sooner : Bounds.earlier = sooner := by
  funext x y
  cases x <;> cases y <;> rfl

section Ending

variable {c : Call} (own : c.Answer) (answer : Option Nat) (limit : Option (Span × Nat))
  (deadline cancel : Option Nat)

/-- What ends a call that is not cancelled, look by look. -/
theorem Bounds.map_uncancelled :
    (Bounds.uncancelled ⟨answer, limit.map (·.2), deadline, cancel⟩).map
        (Prod.map look (c.result own (limit.map (·.1)))) =
      sooner (answer.map fun m => (look m, .ok own)) (sooner
        (limit.map fun l => (look l.2, .ok (c.timeoutAnswer l.1)))
        (deadline.map fun m => (look m, .error (.deadline c.operation)))) := by
  simp only [Bounds.uncancelled, Bounds.earlier_eq_sooner, map_sooner look_le_look,
    Option.map_map]
  cases limit <;> rfl

/-- **The bounds of a call and its race come to the same**, where the pass had not been cancelled
before. -/
theorem Bounds.map_ending :
    (Bounds.ending ⟨answer, limit.map (·.2), deadline, cancel⟩).map
        (fun e => c.result own (limit.map (·.1)) e.2) =
      (c.first own answer limit deadline (cancelLook false cancel)).map (·.2) := by
  rw [Call.first, ← Bounds.map_uncancelled own answer limit deadline cancel, Bounds.ending,
    Bounds.earlier_eq_sooner, cancelLook, if_neg Bool.false_ne_true, Option.map_map]
  rcases Bounds.uncancelled _ with _ | ⟨_ | m, e⟩ <;> rcases cancel with _ | k
  · rfl
  · rfl
  · rfl
  · -- what comes at once is found by the first look, and a cancellation by a later one
    rfl
  · rfl
  · show (sooner (some (k, _)) (some (m + 1, e))).map _ =
      (sooner (some (k + 1, _)) (some (m + 2, _))).map _
    rw [sooner_some, sooner_some]
    by_cases hle : k ≤ m + 1
    · rw [if_pos hle, if_pos (Nat.succ_le_succ hle)]
      rfl
    · rw [if_neg hle, if_neg fun h => hle (Nat.le_of_succ_le_succ h)]
      rfl

end Ending

section Timed

variable {σ : Type} (timers : Timers) (limit deadline : Option Span)
  (conduct : σ → (c : Call) → Conduct σ c.Answer) (t : Timed σ) (c : Call)

/-- The bounds of a call of timed collaborators, if the pass is cancelled at some moment while the
call is under way. -/
def timedBounds (cancel : Option Nat) : Bounds :=
  { Bounds.ofConduct timers limit deadline t.elapsed (conduct t.state c) with cancel := cancel }

/-- The race of these bounds. -/
def timedRace (cancel : Option Nat) : Awaited (Except Interruption c.Answer) :=
  c.race (limit.map fun l => (l, timers.wait t.elapsed (t.elapsed + l.nanos)))
    (timedBounds timers limit deadline conduct t c cancel).deadline (cancelLook t.cancelled cancel)
    (ready ((conduct t.state c).delay.map look) (conduct t.state c).answer)

theorem timedBounds_eq (cancel : Option Nat) :
    timedBounds timers limit deadline conduct t c cancel =
      ⟨(conduct t.state c).delay,
        (limit.map fun l => (l, timers.wait t.elapsed (t.elapsed + l.nanos))).map (·.2),
        (timedBounds timers limit deadline conduct t c cancel).deadline, cancel⟩ := by
  rw [Option.map_map]
  rfl

/-- **What becomes of a call of timed collaborators is what its race comes to.** A race that comes
to nothing is cut off as one that is never answered. -/
theorem result_attend_timed {p : Option (Nat × Except Interruption c.Answer)}
    (h : (timedRace timers limit deadline conduct t c
      (Bounds.ofConduct timers limit deadline t.elapsed (conduct t.state c)).cancel).Settles p) :
    ((Collaborators.timed timers limit deadline conduct).attend t c).1.result =
      (p.map (·.2)).getD (.error (.unanswered c.operation)) := by
  rw [h.unique (Call.settles_race _ _ _ _ _)]
  cases hbefore : t.cancelled with
  | true =>
    rw [cancelLook, if_pos rfl, Call.first_of_cancelled]
    simp only [Collaborators.timed, hbefore, if_true]
    rfl
  | false =>
    rw [← Bounds.map_ending, ← timedBounds_eq, Option.map_map]
    simp only [Collaborators.timed, hbefore, Bool.false_eq_true, if_false]
    show _ = Option.getD (Option.map _ (Bounds.ending (.ofConduct _ _ _ _ _))) _
    rcases Bounds.ending _ with _ | ⟨m, e⟩
    · rfl
    · cases e <;> simp [Attendance.result, Call.result, Function.comp_def]

/-- The timers of a call leave it the time allowed, and the pass the time to its deadline: `b` says
when they go off, counted from the start of the call at a moment of the pass. -/
structure Bounds.NotEarly (b : Bounds) (limit deadline : Option Span) (elapsed : Nat) : Prop where
  limit : ∀ allowed ∈ limit, ∀ m ∈ b.limit, allowed.nanos ≤ m
  deadline : ∀ due ∈ deadline, ∀ m ∈ b.deadline, due.nanos ≤ elapsed + m

theorem Bounds.notEarly_ofConduct (k : Conduct σ c.Answer) (elapsed : Nat) :
    (Bounds.ofConduct timers limit deadline elapsed k).NotEarly limit deadline elapsed where
  limit allowed hallowed m hm := by
    obtain ⟨s, rfl, rfl⟩ := Option.map_eq_some_iff.mp hm
    obtain rfl : s = allowed := Option.some.inj hallowed
    have hle := timers.le_goesOff (elapsed + s.nanos)
    show s.nanos ≤ timers.goesOff (elapsed + s.nanos) - elapsed
    omega
  deadline due hdue m hm := by
    obtain ⟨s, rfl, rfl⟩ := Option.map_eq_some_iff.mp hm
    obtain rfl : s = due := Option.some.inj hdue
    have hle := timers.le_goesOff s.nanos
    show s.nanos ≤ elapsed + (timers.goesOff s.nanos - elapsed)
    omega

/-- **Which bound ends a call of timed collaborators**: the one whose moment comes strictly first,
where the limit and the deadline come when their timers go off, and these never go off early. What
becomes of the call is what its race comes to. -/
theorem decides_timed :
    (∀ cancel, Decides c (conduct t.state c).answer limit
        (timedBounds timers limit deadline conduct t c cancel) t.cancelled
        (timedRace timers limit deadline conduct t c cancel) ∧
      (timedBounds timers limit deadline conduct t c cancel).NotEarly limit deadline t.elapsed) ∧
    ∀ p, (timedRace timers limit deadline conduct t c
        (Bounds.ofConduct timers limit deadline t.elapsed (conduct t.state c)).cancel).Settles p →
      ((Collaborators.timed timers limit deadline conduct).attend t c).1.result =
        (p.map (·.2)).getD (.error (.unanswered c.operation)) := by
  refine ⟨fun cancel => ⟨?_, ?_⟩, fun p => result_attend_timed timers limit deadline conduct t c⟩
  · have h := decides_race (conduct t.state c).answer (conduct t.state c).delay
      (limit.map fun l => (l, timers.wait t.elapsed (t.elapsed + l.nanos)))
      (timedBounds timers limit deadline conduct t c cancel).deadline cancel t.cancelled
    have hlimit : (limit.map fun l =>
        (l, timers.wait t.elapsed (t.elapsed + l.nanos))).map (·.1) = limit := by
      rw [Option.map_map]
      exact congrFun Option.map_id limit
    rw [hlimit, ← timedBounds_eq] at h
    exact h
  · obtain ⟨hlimit, hdeadline⟩ := Bounds.notEarly_ofConduct timers limit deadline c
      (conduct t.state c) t.elapsed
    exact ⟨hlimit, hdeadline⟩

/-- By exact timers the time is up when it has passed, and the deadline comes when it is due. -/
theorem timedBounds_exact (cancel : Option Nat) :
    timedBounds .exact limit deadline conduct t c cancel =
      ⟨(conduct t.state c).delay, limit.map (·.nanos), deadline.map (·.nanos - t.elapsed),
        cancel⟩ := by
  simp only [timedBounds, Bounds.ofConduct, Timers.wait, Timers.exact, id, Nat.add_sub_cancel_left]

end Timed

/-- Collaborators who do as they are asked after two milliseconds. -/
def slow (_ : Unit) (c : Call) : Conduct Unit c.Answer where
  delay := some 2000000
  cancels := false
  started := ()
  answer := match c with
    | .search _ => .ok []
    | .searchResolved _ => .ok []
    | .dispatch _ => .ok ()
    | .upsert _ => .ok ()
    | .markStale _ => .ok ()
  answered := ()

/-- Timers that tick every millisecond, in a pass that begins on a tick, leave a search two
milliseconds instead of one and a half, so an answer after two comes in time. -/
theorem not_decides_exactly :
    let c : Call := .search (.inScope [])
    let allowed : Span := ⟨1500000⟩
    let race := timedRace (.ticking (.ofMillis 1) 0) (some allowed) none slow ⟨(), 0, false⟩ c none
    race.Settles (some (look 2000000, .ok (.ok []))) ∧
      ¬ Decides c (.ok []) (some allowed)
        (timedBounds .exact (some allowed) none slow ⟨(), 0, false⟩ c none) false race := by
  intro c allowed race
  let wait := (Timers.ticking (.ofMillis 1) 0).wait 0 (0 + allowed.nanos)
  have hwait : wait = 2000000 := by decide
  have hanswered : race.Settles (some (look 2000000, .ok (.ok []))) := by
    have hrace := Call.settles_race (c := c) (.ok []) (some 2000000) (some (allowed, wait)) none
      (cancelLook false none)
    have hfirst : c.first (.ok []) (some 2000000) (some (allowed, wait)) none
        (cancelLook false none) = some (look 2000000, .ok (.ok [])) := by
      rw [hwait]
      rfl
    rw [hfirst] at hrace
    exact hrace
  refine ⟨hanswered, fun h => ?_⟩
  rw [timedBounds_exact] at h
  have hclaimed := h.timedOut rfl 1500000 rfl allowed rfl (by simp [Before, slow])
    (by simp [Before]) (by simp [Before])
  cases hanswered.unique hclaimed

end AlertLedger
