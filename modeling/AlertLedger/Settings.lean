import AlertLedger.Time.Phrase

/-!
# Settings

Two durations govern a pass: the quiet window after a resolution, and the time that one call to a
collaborator may take. Both are read from named settings as duration phrases. A setting that is
missing or blank leaves the window at no time and the calls unbounded.
-/

namespace AlertLedger

/-- What governs a pass. -/
structure Settings where
  /-- The shortest time from a resolution to the next announcement of the same finding. -/
  window : Span
  /-- The time that one call may take. -/
  callLimit : Option Span
  deriving DecidableEq, Repr

/-- A setting that is no duration phrase. -/
structure SettingError where
  setting : String
  value : String
  cause : PhraseError
  deriving DecidableEq, Repr

/-- The text of a refused setting; it quotes the value as it was given. -/
def SettingError.message (e : SettingError) : String :=
  "invalid duration for " ++ e.setting ++ ": " ++ Text.Quoted.encode e.value ++ ": "
    ++ e.cause.message

namespace Settings

/-- The setting of the quiet window. -/
def windowSetting : String := "ALERT_RENOTIF_DEBOUNCE_DURATION"

/-- The setting of the time that one call may take. -/
def callLimitSetting : String := "ALERT_COLLABORATOR_TIMEOUT"

/-- The duration of a setting, if it is not blank. Blanks around the phrase do not count. -/
def readDuration (setting : String) (value : Option String) :
    Except SettingError (Option Span) :=
  match value with
  | none => .ok none
  | some v =>
    if Text.isBlankText v then .ok none
    else
      match Phrase.read (Text.strip v) with
      | .ok s => .ok (some s)
      | .error cause => .error ⟨setting, v, cause⟩

/-- The settings under their names. -/
def read (lookup : String → Option String) : Except SettingError Settings := do
  let window ← readDuration windowSetting (lookup windowSetting)
  let callLimit ← readDuration callLimitSetting (lookup callLimitSetting)
  .ok { window := window.getD .zero, callLimit }

@[simp] theorem readDuration_none (setting : String) : readDuration setting none = .ok none := rfl

end Settings

end AlertLedger
