import AlertLedger.Command.Arguments
import AlertLedger.Command.Paint
import AlertLedger.Json.Printer
import AlertLedger.Notice.Channel
import AlertLedger.Pass.Report

/-!
# Display

How results are shown: reports and deliveries, as JSON for programs or as text for people. Only
text is painted.
-/

namespace AlertLedger.Command

/-! ## 1. Forms -/

/-- How results are shown. -/
structure Display where
  form : OutputForm
  isPainted : Bool
  deriving DecidableEq, Repr

namespace Display

/-- A text in a paint. -/
def paint (d : Display) (p : Paint) (text : String) : String :=
  Paint.apply d.isPainted [p] text

/-- A count in a paint. -/
def count (d : Display) (p : Paint) (n : Nat) : String := d.paint p (Text.Decimal.text n)

/-! ## 2. Reports -/

/-- A report for people: a remark if nothing changed, the counts, and a line for each changed
key. -/
def reportText (d : Display) (r : Report) : String :=
  (if r.isEmpty then d.paint .dimmed "No alert changes" ++ "\n" else "")
    ++ d.count .green r.created ++ " created  "
    ++ d.count .yellow r.updated ++ " updated  "
    ++ d.count .cyan r.resolved ++ " resolved  "
    ++ Text.Decimal.text r.unchanged ++ " unchanged\n"
    ++ Text.Decimal.text r.notified ++ " notified  "
    ++ Text.Decimal.text r.suppressed ++ " suppressed  "
    ++ d.count .red r.notifyFailures ++ " notify failures\n"
    ++ String.join (r.modified.map fun k => "  " ++ d.paint .bold "•" ++ " " ++ k.text ++ "\n")

/-- A report as it is shown. -/
def report (d : Display) (r : Report) : String :=
  match d.form with
  | .json => r.toJson.pretty ++ "\n"
  | .text => d.reportText r

/-! ## 3. Deliveries -/

/-- What came of telling a channel, as an object. -/
def deliveryToJson (v : Delivery) : Json :=
  match v.result with
  | .ok () => .object [("channel", .string v.channel), ("ok", .bool true)]
  | .error e =>
    .object [("channel", .string v.channel), ("error", .string e.message), ("ok", .bool false)]

/-- What came of telling a channel, for people. -/
def deliveryText (d : Display) (v : Delivery) : String :=
  match v.result with
  | .ok () => d.paint .green "✓" ++ " " ++ v.channel
  | .error e => d.paint .red "✗" ++ " " ++ v.channel ++ ": " ++ e.message

/-- What came of telling a channel, as it is shown. -/
def delivery (d : Display) (v : Delivery) : String :=
  match d.form with
  | .json => (deliveryToJson v).compact ++ "\n"
  | .text => d.deliveryText v ++ "\n"

end Display

end AlertLedger.Command
