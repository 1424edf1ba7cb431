import AlertLedger.Notice.Channel
import AlertLedger.Proofs.Notice.Event
import Mathlib.Data.List.Forall2

/-!
# Telling every channel

What `Notifier.dispatch` hands out and what comes of it, whatever fails on the way. `run_deliver`
says it for a row of channels after any history of sendings; where each channel answers for itself,
it comes to what `announce` gives (`run_dispatch_faithful`). Main statement: `announced_to_all`.
-/

namespace AlertLedger

/-- A sending with what came of it. -/
structure Receipt where
  sending : Sending
  result : Except ChannelError Unit

/-- Whether a sending failed. -/
def Receipt.failed (r : Receipt) : Bool :=
  match r.result with
  | .ok () => false
  | .error _ => true

/-- The report on a sending that failed: its channel and its error. -/
def Receipt.Reports (r : Receipt) (text : String) : Prop :=
  ∃ e, r.result = .error e ∧ text = r.sending.channel.name ++ ": " ++ e.message

namespace Notifier

/-! ## 1. What is handed out and what comes back -/

/-- The sendings of an event to the enabled channels of a list, in their order. -/
def sendings (e : Event) (channels : List Channel) : List Sending :=
  (channels.filter (·.isEnabled)).map fun c => ⟨c, e⟩

/-- Sendings with what comes of them, one after the other, after those of a history. -/
def receipts (w : Reception) (history : List Sending) : List Sending → List Receipt
  | [] => []
  | x :: xs => ⟨x, w (history ++ [x])⟩ :: receipts w (history ++ [x]) xs

/-- What a sending comes to, under the name of its channel. -/
def delivered (r : Receipt) : Delivery := ⟨r.sending.channel.name, r.result⟩

section Run

variable (w : Reception) (e : Event) (history : List Sending)

theorem run_deliver_cons_of_enabled {c : Channel} (h : c.isEnabled = true) (cs : List Channel) :
    (deliver w e (c :: cs)).run history =
      (⟨c.name, w (history ++ [⟨c, e⟩])⟩ :: ((deliver w e cs).run (history ++ [⟨c, e⟩])).1,
        ((deliver w e cs).run (history ++ [⟨c, e⟩])).2) := by
  rw [deliver, if_pos h]
  rfl

theorem run_deliver_cons_of_disabled {c : Channel} (h : c.isEnabled = false) (cs : List Channel) :
    (deliver w e (c :: cs)).run history = (deliver w e cs).run history := by
  rw [deliver, if_neg (by simp [h])]

/-- **Every enabled channel is handed the event**, one after the other, whatever comes of it. -/
theorem run_deliver (channels : List Channel) :
    (deliver w e channels).run history =
      ((receipts w history (sendings e channels)).map delivered,
        history ++ sendings e channels) := by
  induction channels generalizing history with
  | nil =>
    rw [sendings, List.filter_nil, List.map_nil, List.append_nil]
    rfl
  | cons c cs ih =>
    cases h : c.isEnabled with
    | false =>
      have hsame : sendings e (c :: cs) = sendings e cs := by simp [sendings, h]
      rw [run_deliver_cons_of_disabled w e history h, ih, hsame]
    | true =>
      have hmore : sendings e (c :: cs) = ⟨c, e⟩ :: sendings e cs := by simp [sendings, h]
      rw [run_deliver_cons_of_enabled w e history h, ih, hmore, receipts, List.map_cons,
        List.append_assoc]
      rfl

/-- Where nobody is enabled nothing is handed out. -/
theorem sendings_eq_nil {channels : List Channel}
    (h : (Notifier.over channels).hasChannels = false) : sendings e channels = [] := by
  have hnone : channels.filter (·.isEnabled) = [] := by simpa [hasChannels, enabled] using h
  rw [sendings, hnone, List.map_nil]

theorem run_tellAll (channels : List Channel) :
    ((Notifier.over channels).tellAll w e).run history =
      ((receipts w history (sendings e channels)).map delivered,
        history ++ sendings e channels) := by
  cases h : (Notifier.over channels).hasChannels with
  | true => rw [tellAll, if_pos h, run_deliver]
  | false =>
    rw [tellAll, if_neg (by simp [h]), sendings_eq_nil e h, List.append_nil]
    rfl

theorem run_dispatch (channels : List Channel) (a : Alert) :
    ((Notifier.over channels).dispatch w a).run history =
      (verdict ((receipts w history (sendings (.ofAlert a) channels)).map delivered),
        history ++ sendings (.ofAlert a) channels) := by
  cases h : (Notifier.over channels).hasChannels with
  | true =>
    rw [dispatch, if_pos h]
    exact congrArg (Prod.map verdict id) (run_tellAll w (.ofAlert a) history channels)
  | false =>
    rw [dispatch, if_neg (by simp [h]), sendings_eq_nil _ h, List.append_nil]
    rfl

end Run

/-! ## 2. What the announcement comes to -/

/-- **The failures are those of the sendings that failed**, each reported once and in order. -/
theorem forall₂_reports (rs : List Receipt) :
    List.Forall₂ Receipt.Reports (rs.filter (·.failed))
      ((rs.map delivered).filterMap Delivery.failure?) := by
  induction rs with
  | nil => exact .nil
  | cons r rs ih =>
    obtain ⟨x, result⟩ := r
    cases result with
    | ok u => exact ih
    | error e => exact .cons ⟨e, rfl, rfl⟩ ih

theorem filterMap_failure?_eq_nil_iff {rs : List Receipt} :
    (rs.map delivered).filterMap Delivery.failure? = [] ↔ ∀ r ∈ rs, r.result = .ok () := by
  rw [List.filterMap_eq_nil_iff, List.forall_mem_map]
  refine forall₂_congr fun r _ => ?_
  obtain ⟨x, result⟩ := r
  cases result <;> simp [delivered, Delivery.failure?]

theorem verdict_eq_ok_iff {rs : List Receipt} :
    verdict (rs.map delivered) = .ok () ↔ ∀ r ∈ rs, r.result = .ok () := by
  rw [← filterMap_failure?_eq_nil_iff, verdict]
  split
  · rename_i h
    simp [h]
  · rename_i hne
    exact iff_of_false nofun hne

theorem exists_reports_of_verdict {rs : List Receipt} {e : NotifyError}
    (h : verdict (rs.map delivered) = .error e) :
    ∃ texts, e = .delivery texts ∧
      List.Forall₂ Receipt.Reports (rs.filter (·.failed)) texts := by
  unfold verdict at h
  split at h
  · cases h
  · cases h
    exact ⟨_, rfl, forall₂_reports rs⟩

/-! ## 3. Channels that answer for themselves -/

/-- What comes of a sending is up to its channel and the event. -/
def faithful : Reception := fun history =>
  match history.getLast? with
  | none => .ok ()
  | some x => x.channel.send x.event

theorem receipts_faithful (history xs : List Sending) :
    receipts faithful history xs = xs.map fun x => ⟨x, x.channel.send x.event⟩ := by
  induction xs generalizing history with
  | nil => rfl
  | cons x xs ih => simp [receipts, faithful, ih]

/-- **Step by step it comes to the announcement**, where channels answer for themselves. -/
theorem run_dispatch_faithful (n : Notifier) (a : Alert) (history : List Sending) :
    ((n.dispatch faithful a).run history).1 = n.announce a := by
  match n with
  | .off => rfl
  | .over channels =>
    rw [run_dispatch, receipts_faithful, announce, verdict, tell, enabled, sendings,
      List.map_map, List.map_map]
    rfl

/-- What becomes of an announcement to channels, after a history of sendings. -/
structure AnnouncedToAll (w : Reception) (channels : List Channel) (a : Alert)
    (history : List Sending) : Prop where
  /-- The enabled channels are handed the event of the alert, once each and in their order. -/
  sent : (((Notifier.over channels).dispatch w a).run history).2 =
    history ++ (channels.filter (·.isEnabled)).map fun c => ⟨c, .ofAlert a⟩
  /-- The event speaks of the alert. -/
  told : ∃ n, Event.ofAlert a = .policyViolation n ∧ n.SpeaksOf a
  /-- The announcement succeeds exactly where all of them deliver. -/
  ok_iff : (((Notifier.over channels).dispatch w a).run history).1 = .ok () ↔
    ∀ r ∈ receipts w history (sendings (.ofAlert a) channels), r.result = .ok ()
  /-- Otherwise it reports those that do not, once each and in their order. -/
  failures : ∀ e, (((Notifier.over channels).dispatch w a).run history).1 = .error e →
    ∃ texts, e = .delivery texts ∧ List.Forall₂ Receipt.Reports
      ((receipts w history (sendings (.ofAlert a) channels)).filter (·.failed)) texts

/-- **An alert is announced to every enabled channel and to no other**, whatever comes of it. A
notifier that is switched off tells nobody. -/
theorem announced_to_all (w : Reception) (a : Alert) (history : List Sending) :
    (∀ channels, AnnouncedToAll w channels a history) ∧
      (off.dispatch w a).run history = (.ok (), history) ∧
      ∀ n : Notifier, n.announce a = ((n.dispatch faithful a).run history).1 := by
  refine ⟨fun channels => ?_, rfl, fun n => (run_dispatch_faithful n a history).symm⟩
  have hrun := run_dispatch w history channels a
  constructor
  · rw [hrun, sendings]
  · exact ⟨.of a, rfl, ViolationNotice.speaksOf_iff.mpr rfl⟩
  · rw [hrun, verdict_eq_ok_iff]
  · intro e he
    rw [hrun] at he
    exact exists_reports_of_verdict he

end Notifier

end AlertLedger
