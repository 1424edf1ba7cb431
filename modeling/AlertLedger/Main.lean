import AlertLedger.Command.Session
import AlertLedger.Text.Uuid
import Std.Time.Date.PlainDate
import Std.Time.DateTime.Timestamp

/-!
# The program

The outer layer of the command line: it looks up the settings, the clock and the files, lets the
commands decide, and prints and writes what they come to.
-/

namespace AlertLedger.Command

/-- The settings that are set. -/
def settings : IO (List (String × String)) :=
  settingNames.filterMapM fun name => do
    let value ← IO.getEnv name
    return value.map (name, ·)

/-- The clock. -/
def clock : IO Instant := do
  let t ← Std.Time.Timestamp.now
  let nanos := t.toNanosecondsSinceUnixEpoch.val
  let seconds := nanos / nanosPerSecond
  let day := Std.Time.PlainDate.ofEpochDay (.ofInt (seconds / secondsPerDay))
  let instant? := do
    let date ← Date.of? day.year day.month.toNat day.day.toNat
    Instant.of? date (seconds % secondsPerDay).toNat (nanos % nanosPerSecond).toNat
  match instant? with
  | some t => return t
  | none => throw (IO.userError "the clock is out of range")

/-- What is found at a path. -/
def contentAt (path : String) : IO FileContent := do
  try
    return .text (← IO.FS.readFile path)
  catch
    | .noFileOrDirectory .. => return .absent
    | _ => return .unreadable

/-- A new id. -/
def newId : IO String := do
  let bytes ← IO.getRandomBytes 16
  return Text.Uuid.text (bytes.toList.foldl (fun n b => 256 * n + b.toNat) 0)

/-- The surroundings of a command that may need some new ids. Nothing can be posted from here, so
every post fails on its way. -/
def surroundings (idCount : Nat) : IO Surroundings := do
  let values ← settings
  let now ← clock
  let ids ← (List.replicate idCount ()).mapM fun _ => newId
  let uptime ← IO.monoNanosNow
  return {
    setting := fun name => values.lookup name
    now
    uptime := ⟨uptime⟩
    freshId := fun n => ids[n]?.getD ""
    endpoint := fun _ _ => .error "no transport is available"
    delay := fun _ => some 0
    timers := .ticking (.ofMillis 1) 0 }

/-- The outcome once its writing has been done. -/
def carryOut (o : Outcome) : IO Outcome := do
  match o.writing with
  | none => return o
  | some (path, text) =>
    try
      IO.FS.writeFile path text
      return o
    catch _ => return o.unwritten

/-- Shows an outcome. -/
def conclude (o : Outcome) : IO UInt32 := do
  let o ← carryOut o
  IO.print o.output
  if let some f := o.failure then
    IO.eprintln (if f.isAbrupt then f.message else "Error: " ++ f.message)
  return o.status.toUInt32

/-- Does a task. -/
def perform (form : OutputForm) : Task → IO UInt32
  | .notifyTest message => do
    let x ← surroundings 0
    conclude (notifyTest x form message)
  | .reconcile o => do
    let values ← settings
    let state ← contentAt o.state
    let current ← contentAt o.current
    match o.materials (fun name => values.lookup name) state current with
    | .error f => conclude (.failed f)
    | .ok m => do
      let x ← surroundings m.batch.length
      conclude (reconcile x form o m)

/-- Does what the arguments ask for. -/
def answer (arguments : List String) : IO UInt32 := do
  match read arguments with
  | .error e =>
    IO.eprintln ("error: " ++ e.message)
    return e.status.toUInt32
  | .ok .version =>
    IO.print versionText
    return 0
  | .ok (.help topic) =>
    let values ← settings
    IO.print (helpText (fun name => values.lookup name) topic)
    return 0
  | .ok (.run task form) => perform form task

end AlertLedger.Command

/-- The program. -/
def main (arguments : List String) : IO UInt32 := AlertLedger.Command.answer arguments
