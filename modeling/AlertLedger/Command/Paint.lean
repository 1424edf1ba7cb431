/-!
# Paint

Text on a terminal in colours and weights: painting puts codes in front of a piece of text and a
reset behind it. Nothing is painted unless a setting forces it, because the output may be read by
another program. Results and help texts take that setting in their own ways.
-/

namespace AlertLedger.Command

/-- The paints that text is shown in. -/
inductive Paint where
  | red | green | yellow | cyan | bold | dimmed | underlined
  deriving DecidableEq, Repr

namespace Paint

/-- The number that a terminal knows a paint by. -/
def code : Paint → String
  | .bold => "1"
  | .dimmed => "2"
  | .underlined => "4"
  | .red => "31"
  | .green => "32"
  | .yellow => "33"
  | .cyan => "36"

/-- A text in some paints, if it is to be painted. -/
def apply (isPainted : Bool) (paints : List Paint) (text : String) : String :=
  if isPainted then
    String.join (paints.map fun p => "\x1b[" ++ p.code ++ "m") ++ text ++ "\x1b[0m"
  else text

@[simp] theorem apply_false (paints : List Paint) (text : String) :
    apply false paints text = text := rfl

/-- The setting that forces paint. -/
def forceSetting : String := "CLICOLOR_FORCE"

/-- The setting that keeps help texts plain. -/
def plainSetting : String := "NO_COLOR"

/-- Whether a setting forces paint on results: any value does, except a zero. -/
def isForced : Option String → Bool
  | none => false
  | some s => s ≠ "0"

/-- Whether help texts are painted: any value forces it that is not empty, unless another such
value wants them plain. -/
def isHelpPainted (force plain : Option String) : Bool :=
  force.getD "" ≠ "" && plain.getD "" = ""

end Paint

end AlertLedger.Command
