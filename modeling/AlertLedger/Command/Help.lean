import AlertLedger.Command.Arguments
import AlertLedger.Command.Paint

/-!
# Help

The texts that the program shows about itself: its version, and how it and its commands are used.
A help text says what something is for, how it is called, and then lists commands, arguments and
options with a note on each, all notes of a list in one column. Headings, and the words that are
typed as they stand, can be painted.
-/

namespace AlertLedger.Command

/-- The name and the version of the program. -/
def versionText : String := "alertctl 0.1.0\n"

/-! ## 1. Parts of a help text -/

/-- A piece of a line. -/
inductive Piece where
  /-- A word that is typed as it stands. -/
  | typed (text : String)
  /-- What stands for something else, or between words. -/
  | plain (text : String)
  deriving DecidableEq, Repr

/-- The text of a piece. -/
def Piece.text : Piece → String
  | .typed text => text
  | .plain text => text

/-- A piece as it is shown. -/
def Piece.shown (isPainted : Bool) : Piece → String
  | .typed text => Paint.apply isPainted [.bold] text
  | .plain text => text

/-- A heading as it is shown. -/
def heading (isPainted : Bool) (text : String) : String :=
  Paint.apply isPainted [.bold, .underlined] (text ++ ":")

/-- An entry of a list: what it is about, and a note on it. -/
structure Entry where
  term : List Piece
  note : String
  deriving DecidableEq, Repr

/-- How much room the term of an entry takes. -/
def Entry.width (e : Entry) : Nat := e.term.foldl (fun n p => n + p.text.length) 0

/-- An entry on its line, with its note behind the widest term. -/
def Entry.line (isPainted : Bool) (widest : Nat) (e : Entry) : String :=
  "  " ++ String.join (e.term.map (Piece.shown isPainted))
    ++ String.ofList (List.replicate (widest - e.width + 2) ' ') ++ e.note ++ "\n"

/-- A list with its heading. -/
def listText (isPainted : Bool) (title : String) (entries : List Entry) : String :=
  let widest := entries.foldl (fun n e => max n e.width) 0
  heading isPainted title ++ "\n" ++ String.join (entries.map (Entry.line isPainted widest))

/-! ## 2. Options -/

/-- What stands for the value of an option. -/
def Opt.standIn (o : Opt) : String := "<" ++ o.name.toUpper ++ ">"

/-- The long form of an option, with a value if it has one. -/
def Opt.long (o : Opt) : List Piece :=
  .typed ("--" ++ o.name) :: (if o.isFlag then [] else [.plain (" " ++ o.standIn)])

/-- An option on its line: a letter or the room for one, and the long form. -/
def Opt.term (o : Opt) : List Piece :=
  match o.letter? with
  | some c => .typed (String.ofList ['-', c]) :: .plain ", " :: o.long
  | none => .plain "    " :: o.long

/-- What an option is for. -/
def Opt.note : Opt → String
  | .format => "Output format (json or text) [default: json] [possible values: json, text]"
  | .verbose => "Enable verbose output"
  | .help => "Print help"
  | .version => "Print version"
  | .state => "JSON array of stored alerts (created if missing)"
  | .current => "JSON array of alerts produced by the detection pass"
  | .policy => "Limit the pass to one policy"
  | .entity => "Limit the pass to one deployment or resource"
  | .timeout => "Overall deadline for the pass, e.g. \"30s\""
  | .write => "Write the reconciled alerts back to the state file"
  | .message => "[default: \"" ++ defaultMessage ++ "\"]"

/-- An option in a list. -/
def Opt.entry (o : Opt) : Entry := ⟨o.term, o.note⟩

/-! ## 3. Topics -/

namespace Topic

/-- What a topic is for. -/
def about : Topic → String
  | .program => "Reconcile detected policy violations against stored alerts"
  | .reconcile => "Reconcile a detection pass against stored alerts"
  | .notifyTest => "Send a test notification to every configured channel"
  | .help => "Print this message or the help of the given subcommand(s)"

/-- The name of a command. -/
def name : Topic → String
  | .program => "alertctl"
  | .reconcile => "reconcile"
  | .notifyTest => "notify-test"
  | .help => "help"

/-- How a topic is called. -/
def usage : Topic → List Piece
  | .program => [.typed "alertctl", .plain " [OPTIONS] <COMMAND>"]
  | .reconcile =>
    [.typed "alertctl reconcile", .plain " [OPTIONS] "] ++ Opt.state.long ++ [.plain " "]
      ++ Opt.current.long
  | .notifyTest => [.typed "alertctl notify-test", .plain " [OPTIONS]"]
  | .help => [.typed "alertctl help", .plain " [COMMAND]..."]

/-- A command in the list of them. -/
def entry (t : Topic) : Entry := ⟨[.typed t.name], t.about⟩

/-- The lists of a topic, with their titles. -/
def lists (t : Topic) : List (String × List Entry) :=
  match t with
  | .program =>
    [("Commands", [entry .reconcile, entry .notifyTest, entry .help]),
      ("Options", t.options.map Opt.entry)]
  | .help => [("Arguments", [⟨[.plain "[COMMAND]..."], "Print help for the subcommand(s)"⟩])]
  | _ => [("Options", t.options.map Opt.entry)]

/-- The help text of a topic. -/
def text (isPainted : Bool) (t : Topic) : String :=
  t.about ++ "\n\n" ++ heading isPainted "Usage" ++ " "
    ++ String.join (t.usage.map (Piece.shown isPainted)) ++ "\n"
    ++ String.join (t.lists.map fun (title, es) => "\n" ++ listText isPainted title es)

end Topic

end AlertLedger.Command
