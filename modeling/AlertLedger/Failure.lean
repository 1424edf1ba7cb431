import AlertLedger.Alert.Basic
import AlertLedger.Time.Span

/-!
# Failures

What can go wrong, by cause: a call that outlives its time, a store that refuses or cannot be
reached, a channel that does not deliver, and a pass that cannot be completed. Each cause has one
text (`message`), and the texts of compound failures are made of the texts of their parts.
-/

namespace AlertLedger

/-! ## 1. One call -/

/-- A call that outlived the time allowed for it. -/
structure CallTimeout where
  operation : String
  limit : Span
  deriving DecidableEq, Repr

/-- The text of a timeout. -/
def CallTimeout.message (t : CallTimeout) : String :=
  t.operation ++ " timed out after " ++ t.limit.text

/-- Why a store did not do as it was asked. -/
inductive StoreError where
  /-- The caller may not see or change the records. -/
  | accessDenied (what : String)
  | notFound (id : String)
  /-- The store could not be reached, or not in time. -/
  | unavailable (why : String)
  | other (why : String)
  deriving DecidableEq, Repr

namespace StoreError

/-- The text of a store's refusal. -/
def message : StoreError → String
  | .accessDenied what => "access denied: " ++ what
  | .notFound id => "alert not found: " ++ id
  | .unavailable why => "store unavailable: " ++ why
  | .other why => why

/-- Whether access was denied. -/
def isAccessDenied : StoreError → Bool
  | .accessDenied _ => true
  | _ => false

/-- A store that does not answer in time is unavailable. -/
def ofTimeout (t : CallTimeout) : StoreError := .unavailable t.message

@[simp] theorem isAccessDenied_ofTimeout (t : CallTimeout) : (ofTimeout t).isAccessDenied = false :=
  rfl

end StoreError

/-- Why a channel did not deliver. -/
inductive ChannelError where
  /-- The request got no answer. -/
  | transport (why : String)
  | notConfigured (what : String)
  | rateLimited (seconds : Nat)
  | rejected (channel : String) (status : Nat) (body : String)
  | other (why : String)
  deriving DecidableEq, Repr

/-- The text of a failed delivery. -/
def ChannelError.message : ChannelError → String
  | .transport why => "HTTP request failed: " ++ why
  | .notConfigured what => "Channel not configured: " ++ what
  | .rateLimited seconds => "Rate limited, retry after " ++ Text.Decimal.text seconds ++ "s"
  | .rejected channel status body =>
    channel ++ " returned " ++ Text.Decimal.text status ++ ": " ++ body
  | .other why => why

/-- Why an announcement failed. -/
inductive NotifyError where
  /-- Some channels did not deliver; each is named with its reason. -/
  | delivery (failures : List String)
  | timeout (t : CallTimeout)
  | other (why : String)
  deriving DecidableEq, Repr

/-- The text of a failed announcement. -/
def NotifyError.message : NotifyError → String
  | .delivery failures => "notification delivery failed: " ++ "; ".intercalate failures
  | .timeout t => t.message
  | .other why => why

/-! ## 2. One pass -/

/-- The two ways in which a pass changes a record. -/
inductive WriteKind where
  | upsert
  | markStale
  deriving DecidableEq, Repr

/-- The name of a way of writing. -/
def WriteKind.text : WriteKind → String
  | .upsert => "upsert"
  | .markStale => "mark stale"

/-- A write that failed. -/
structure WriteFailure where
  key : Key
  id : String
  kind : WriteKind
  cause : StoreError
  deriving DecidableEq, Repr

/-- The text of a failed write. -/
def WriteFailure.message (f : WriteFailure) : String :=
  f.kind.text ++ " of alert " ++ f.id ++ " (" ++ f.key.text ++ ") failed: " ++ f.cause.message

/-- What can end a pass from outside: being cancelled, and its deadline. -/
inductive Interruption where
  | cancelled
  /-- The deadline of the pass came while an operation was under way. -/
  | deadline (operation : String)
  /-- Nothing bounds the operation, and its answer never comes. A pass would wait for it without
  end; so that every course has a run, the run is taken to end here. -/
  | unanswered (operation : String)
  deriving DecidableEq, Repr

/-- The text of an interruption. -/
def Interruption.message : Interruption → String
  | .cancelled => "reconciliation cancelled"
  | .deadline operation => "deadline exceeded during " ++ operation
  | .unanswered operation => "no answer to " ++ operation

/-- Why a pass did not succeed. -/
inductive PassError where
  /-- The records in scope could not be fetched; nothing was written. -/
  | query (cause : StoreError)
  /-- Some writes failed; every other key of the batch was dealt with. -/
  | persist (failures : List WriteFailure)
  | interrupted (i : Interruption)
  deriving DecidableEq, Repr

namespace PassError

/-- The text of a failed pass. -/
def message : PassError → String
  | .query cause => "failed to query previous alerts: " ++ cause.message
  | .persist failures =>
    Text.Decimal.text failures.length ++ " alert write(s) failed: "
      ++ "; ".intercalate (failures.map WriteFailure.message)
  | .interrupted i => i.message

/-- Whether a store denied access at any point. -/
def isAccessDenied : PassError → Bool
  | .query cause => cause.isAccessDenied
  | .persist failures => failures.any (·.cause.isAccessDenied)
  | .interrupted _ => false

end PassError

end AlertLedger
