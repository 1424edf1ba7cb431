import AlertLedger.Notice.Event

/-!
# What an event says of an alert

The event of an alert carries a notice that speaks of the alert: of its id, policy, entity, stage
and time, and of what its evidence comes down to (`ViolationNotice.SpeaksOf`). There is only one
such notice (`speaksOf_iff`), and it leaves out nothing of these: alerts with one event agree in all
of them (`Event.ofAlert_eq_iff`). What an event does not tell are the id of the entity, and the
evidence beyond its headline and its number.
-/

namespace AlertLedger

/-! ## 1. The notice of an alert -/

/-- Whether a notice speaks of an alert: of its id, policy, entity, stage and time, and of what its
evidence comes down to. -/
structure ViolationNotice.SpeaksOf (n : ViolationNotice) (a : Alert) : Prop where
  alert : n.alertId = a.id
  policy : (⟨n.policyId, n.policyName, n.severity⟩ : Policy) = a.policy
  entity : (n.entityKind, n.entityName) = (a.entity.kind.title, a.entity.name)
  whereabouts : (n.scope, n.cluster) = (a.entity.scope, a.entity.cluster)
  stage : n.stage = a.stage.text
  evidence : (n.evidenceCount, n.summary) = (a.evidenceCount, summaryOf a)
  time : n.time = a.time

/-- **The notice of an alert is the one that speaks of it.** -/
theorem ViolationNotice.speaksOf_iff {n : ViolationNotice} {a : Alert} :
    n.SpeaksOf a ↔ n = of a := by
  constructor
  · intro h
    obtain ⟨hkind, hname⟩ := Prod.mk.inj h.entity
    obtain ⟨hscope, hcluster⟩ := Prod.mk.inj h.whereabouts
    obtain ⟨hcount, hsummary⟩ := Prod.mk.inj h.evidence
    cases n
    simp only [of, mk.injEq]
    exact ⟨h.alert, congrArg Policy.id h.policy, congrArg Policy.name h.policy,
      congrArg Policy.severity h.policy, hkind, hname, hscope, hcluster, h.stage, hsummary, hcount,
      h.time⟩
  · rintro rfl
    exact ⟨rfl, rfl, rfl, rfl, rfl, rfl, rfl⟩

/-! ## 2. Alerts with one event -/

theorem EntityKind.title_inj {k l : EntityKind} : k.title = l.title ↔ k = l := by
  cases k <;> cases l <;> decide

theorem Stage.text_inj {s t : Stage} : s.text = t.text ↔ s = t := by
  cases s <;> cases t <;> decide

/-- The line about the evidence tells as much as the headline, where the number is known. -/
theorem ViolationNotice.summaryOf_inj {a b : Alert} (h : a.evidenceCount = b.evidenceCount) :
    summaryOf a = summaryOf b ↔ headline a = headline b := by
  unfold summaryOf
  rw [h]
  split
  · rfl
  · rw [String.append_left_inj, String.append_left_inj, String.append_left_inj]

/-- Whether two alerts agree in all that an event tells. -/
structure Alert.ToldAlike (a b : Alert) : Prop where
  id : a.id = b.id
  policy : a.policy = b.policy
  /-- The entity may differ in its id alone. -/
  entity : { a.entity with id := b.entity.id } = b.entity
  stage : a.stage = b.stage
  headline : ViolationNotice.headline a = ViolationNotice.headline b
  evidenceCount : a.evidenceCount = b.evidenceCount
  time : a.time = b.time

/-- **Two alerts have one event exactly where they agree in all that it tells.** -/
theorem Event.ofAlert_eq_iff {a b : Alert} : ofAlert a = ofAlert b ↔ a.ToldAlike b := by
  have hsame : ofAlert a = ofAlert b ↔ (ViolationNotice.of a).SpeaksOf b := by
    rw [ViolationNotice.speaksOf_iff, ofAlert, ofAlert, policyViolation.injEq]
  rw [hsame]
  constructor
  · intro h
    obtain ⟨hkind, hname⟩ := Prod.mk.inj h.entity
    obtain ⟨hscope, hcluster⟩ := Prod.mk.inj h.whereabouts
    obtain ⟨hcount, hsummary⟩ := Prod.mk.inj h.evidence
    refine ⟨h.alert, h.policy, ?_, Stage.text_inj.mp h.stage,
      (ViolationNotice.summaryOf_inj hcount).mp hsummary, hcount, h.time⟩
    exact Entity.mk.injEq .. ▸ ⟨EntityKind.title_inj.mp hkind, rfl, hname, hscope, hcluster⟩
  · intro h
    have hsummary := (ViolationNotice.summaryOf_inj h.evidenceCount).mpr h.headline
    refine ⟨h.id, h.policy, ?_, ?_, congrArg Stage.text h.stage,
      Prod.ext h.evidenceCount hsummary, h.time⟩ <;> rw [← h.entity] <;> rfl

end AlertLedger
