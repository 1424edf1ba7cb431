import AlertLedger.Call.Course
import AlertLedger.Store

/-!
# Prompt collaborators

A store that answers each call at once, beside someone who announces alerts. This is how calls go
when nothing delays or interrupts them (`Collaborators.prompt`); other collaborators are described
by how they differ from it. A record is stamped with what the clock shows when it is retired, which
may be another instant for each call.
-/

namespace AlertLedger

/-- What a write answers, and the store after it. -/
def Store.afterWrite (s : Store) : Except StoreError Store → Except StoreError Unit × Store
  | .ok s => (.ok (), s)
  | .error e => (.error e, s)

/-- What a store answers to a call, and the store after it. -/
def Store.answer (now : Instant) (announce : Alert → Except NotifyError Unit) (s : Store) :
    (c : Call) → c.Answer × Store
  | .search q => (s.search q, s)
  | .searchResolved k => (s.search (.resolvedFor k), s)
  | .dispatch a => (announce a, s)
  | .upsert a => s.afterWrite (s.upsert a)
  | .markStale id => s.afterWrite (s.markStale id now)

/-- A store that answers at once, each call at the instant that the clock shows at it. -/
def Collaborators.prompt (clock : Call → Instant) (announce : Alert → Except NotifyError Unit) :
    Collaborators Store where
  attend s c := ((s.answer (clock c) announce c).map .answered id)

end AlertLedger
