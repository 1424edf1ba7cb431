import AlertLedger.Alert.Form
import AlertLedger.Proofs.Json.Members
import AlertLedger.Proofs.Time.Timestamp

/-!
# Alerts read back

Every alert is read back from its JSON form (`Alert.ofJson?_toJson`), part by part: what an optional
field leaves out is read as nothing, an empty list of attributes that is not mentioned is read as
empty, and every kind of observation as itself. The forms fit the reader of JSON texts, six levels
deep, so a list of alerts is read back from its text as well (`alertsOfJson?_read?_pretty`).
-/

namespace AlertLedger

open Json

/-! ## 1. Parts of an alert -/

@[simp] theorem Instant.ofJson?_toJson (t : Instant) : ofJson? t.toJson = some t :=
  readTimestamp?_text t

@[simp] theorem Instant.toJson_ne_null (t : Instant) : t.toJson ≠ .null := by
  simp [toJson]

@[simp] theorem Policy.ofJson?_toJson (p : Policy) : ofJson? p.toJson = some p := by
  simp [ofJson?, toJson, members?, required]

@[simp] theorem Entity.ofJson?_toJson (e : Entity) : ofJson? e.toJson = some e := by
  obtain ⟨kind, id, name, scope, cluster⟩ := e
  cases scope <;> cases cluster <;> simp [ofJson?, toJson, members?, required]

@[simp] theorem Attribute.ofJson?_toJson (a : Attribute) : ofJson? a.toJson = some a := by
  simp [ofJson?, toJson, members?, required]

/-! ## 2. Violations -/

theorem Attribute.isComplete_toJson (a : Attribute) : a.toJson.isComplete = true := by
  simp [toJson]

theorem Violation.isComplete_toJson (v : Violation) : v.toJson.isComplete = true := by
  obtain ⟨message, observation⟩ := v
  cases observation with
  | generic => simp [toJson, Observation.members]
  | clusterEvent time attributes =>
    cases time <;> by_cases h : attributes = [] <;>
      simp [toJson, Observation.members, Instant.toJson, h, Json.ofList,
        Attribute.isComplete_toJson]
  | networkFlow attributes =>
    simp [toJson, Observation.members, Json.ofList, Attribute.isComplete_toJson]

/-- **Every violation is read back**, of whichever kind it is. -/
@[simp] theorem Violation.ofJson?_toJson (v : Violation) : ofJson? v.toJson = some v := by
  have hattributes := asList?_ofList Attribute.ofJson?_toJson
  rw [ofJson?, completeMembers?, if_pos v.isComplete_toJson]
  obtain ⟨message, observation⟩ := v
  cases observation with
  | generic =>
    simp [toJson, members?, required, Observation.kindText, Observation.members,
      Observation.ofMembers?]
  | clusterEvent time attributes =>
    cases time <;> by_cases h : attributes = [] <;>
      simp [toJson, members?, required, defaulted, Observation.kindText, Observation.members,
        Observation.ofMembers?, h, hattributes]
  | networkFlow attributes =>
    simp [toJson, members?, required, Observation.kindText, Observation.members,
      Observation.ofMembers?, hattributes]

/-! ## 3. Processes -/

theorem asUser?_ofNat (u : UInt32) : asUser? (ofNat u.toNat) = some u := by
  rw [asUser?, asNatBelow?_ofNat u.toNat_lt]
  simp

@[simp] theorem ProcessSighting.ofJson?_toJson (p : ProcessSighting) :
    ofJson? p.toJson = some p := by
  obtain ⟨container, name, path, arguments, user, time⟩ := p
  cases time <;>
    simp [ofJson?, toJson, ofSignal?, signalToJson, members?, required, defaulted, asUser?_ofNat]

@[simp] theorem ProcessEvidence.ofJson?_toJson (e : ProcessEvidence) :
    ofJson? e.toJson = some e := by
  have hprocesses := asList?_ofList ProcessSighting.ofJson?_toJson
  simp [ofJson?, toJson, members?, required, hprocesses]

@[simp] theorem ProcessEvidence.toJson_ne_null (e : ProcessEvidence) : e.toJson ≠ .null := by
  simp [toJson]

/-! ## 4. Alerts -/

/-- **Every alert is read back.** -/
@[simp] theorem Alert.ofJson?_toJson (a : Alert) : ofJson? a.toJson = some a := by
  have hviolations := asList?_ofList Violation.ofJson?_toJson
  obtain ⟨id, policy, entity, stage, status, violations, processEvidence, time, resolvedAt⟩ := a
  cases processEvidence <;> cases resolvedAt <;>
    simp [ofJson?, toJson, members?, required, defaulted, hviolations]

theorem alertsOfJson?_alertsToJson (as : List Alert) : alertsOfJson? (alertsToJson as) = some as :=
  asList?_ofList Alert.ofJson?_toJson as

/-! ## 5. Texts of alerts -/

section Fitting

variable {room : Nat}

@[simp] theorem Severity.fits_toJson (s : Severity) : s.toJson.fits room = true := by
  cases s <;> rfl

@[simp] theorem EntityKind.fits_toJson (k : EntityKind) : k.toJson.fits room = true := by
  cases k <;> rfl

@[simp] theorem Instant.fits_toJson (t : Instant) : t.toJson.fits room = true := rfl

@[simp] theorem Policy.fits_toJson (p : Policy) : p.toJson.fits (room + 1) = true := by
  simp [toJson]

@[simp] theorem Entity.fits_toJson (e : Entity) : e.toJson.fits (room + 1) = true := by
  simp [toJson, all_fits_optionalMember fits_string]

theorem Attribute.fits_toJson (a : Attribute) : a.toJson.fits (room + 1) = true := by
  simp [toJson]

theorem Observation.all_fits_members (o : Observation) :
    (o.members.all fun m => m.2.fits (room + 2)) = true := by
  have hattributes (attributes : List Attribute) :
      (ofList Attribute.toJson attributes).fits (room + 2) = true :=
    fits_ofList Attribute.fits_toJson attributes
  cases o with
  | generic => rfl
  | clusterEvent time attributes =>
    by_cases h : attributes = [] <;>
      simp [members, h, hattributes, all_fits_optionalMember Instant.fits_toJson]
  | networkFlow attributes => simp [members, hattributes]

theorem Violation.fits_toJson (v : Violation) : v.toJson.fits (room + 3) = true := by
  simp [toJson, v.observation.all_fits_members]

theorem ProcessSighting.fits_toJson (p : ProcessSighting) : p.toJson.fits (room + 2) = true := by
  have huser : p.user.toNat < 2 ^ 53 := Nat.lt_trans p.user.toNat_lt (by decide)
  simp [toJson, signalToJson, fits_ofNat huser, all_fits_optionalMember Instant.fits_toJson]

theorem ProcessEvidence.fits_toJson (e : ProcessEvidence) : e.toJson.fits (room + 4) = true := by
  simp [toJson, fits_ofList ProcessSighting.fits_toJson]

theorem Alert.fits_toJson (a : Alert) : a.toJson.fits (room + 5) = true := by
  simp [toJson, Stage.toJson, Status.toJson, fits_ofList Violation.fits_toJson,
    all_fits_optionalMember ProcessEvidence.fits_toJson,
    all_fits_optionalMember Instant.fits_toJson]

end Fitting

theorem fits_alertsToJson (as : List Alert) : (alertsToJson as).fits nestingLimit = true := by
  have hfits : (ofList Alert.toJson as).fits (121 + 5 + 1) = true :=
    fits_ofList Alert.fits_toJson as
  exact hfits

/-- **A list of alerts is read back from its text over several lines.** -/
theorem alertsOfJson?_read?_pretty (as : List Alert) :
    (read? (alertsToJson as).pretty).bind alertsOfJson? = some as := by
  rw [read?_pretty (fits_alertsToJson as), Option.bind_some, alertsOfJson?_alertsToJson]

end AlertLedger
