import AlertLedger.Failure
import AlertLedger.Query.Basic

/-!
# Calls

What a pass asks of its collaborators, the store and the notifier, and the type of the answer to
each question. Every question has a name, which messages about timeouts and deadlines use. A call
that times out is answered with the collaborator's own kind of error.
-/

namespace AlertLedger

/-- A question to a collaborator. -/
inductive Call where
  /-- The records in scope. -/
  | search (q : Query)
  /-- The resolved records of a finding. -/
  | searchResolved (k : Key)
  /-- The announcement of an alert. -/
  | dispatch (a : Alert)
  /-- The writing of a record. -/
  | upsert (a : Alert)
  /-- The retirement of a record. -/
  | markStale (id : String)
  deriving DecidableEq

namespace Call

/-- What the answer to a call is. -/
def Answer : Call → Type
  | .search _ => Except StoreError (List Alert)
  | .searchResolved _ => Except StoreError (List Alert)
  | .dispatch _ => Except NotifyError Unit
  | .upsert _ => Except StoreError Unit
  | .markStale _ => Except StoreError Unit

/-- The name of what a call does. -/
def operation : Call → String
  | .search _ => "search_alerts"
  | .searchResolved _ => "search_resolved_alerts"
  | .dispatch _ => "dispatch_notification"
  | .upsert _ => "upsert_alert"
  | .markStale _ => "mark_alert_stale"

/-- The query that a call puts to the store. -/
def query? : Call → Option Query
  | .search q => some q
  | .searchResolved k => some (.resolvedFor k)
  | _ => none

/-- The answer to a call that timed out. -/
def timeoutAnswer (c : Call) (limit : Span) : c.Answer :=
  let t : CallTimeout := ⟨c.operation, limit⟩
  match c with
  | .search _ => .error (.ofTimeout t)
  | .searchResolved _ => .error (.ofTimeout t)
  | .dispatch _ => .error (.timeout t)
  | .upsert _ => .error (.ofTimeout t)
  | .markStale _ => .error (.ofTimeout t)

end Call

end AlertLedger
