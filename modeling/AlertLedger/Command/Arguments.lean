import AlertLedger.Time.Phrase

/-!
# Arguments

The arguments of the program: options, a command, and options of the command. `read` turns them
into a `Request` or says what is wrong with them. They are taken in order and the first one that is
wrong decides, but asking for help or for the version stops the reading. A long option stands
between two dashes and its value, which is attached by an equals sign or follows as the next
argument; a value that follows is looked at when something comes after it that is no command, or
when the place is at its end.
Flags of one letter can be joined. No option may be given twice at one place, before the command or
after it; an option that may stand at both places counts as given after the command.
-/

namespace AlertLedger.Command

/-! ## 1. Requests -/

/-- How results are written. -/
inductive OutputForm where
  | json
  | text
  deriving DecidableEq, Repr

/-- What a reconciliation is told. -/
structure ReconcileOptions where
  /-- The path of the stored alerts. -/
  state : String
  /-- The path of the batch. -/
  current : String
  policy : Option String
  entity : Option String
  /-- The time that the pass may take. -/
  timeout : Option Span
  /-- Whether the stored alerts are written back. -/
  writesBack : Bool
  deriving DecidableEq, Repr

/-- What the program can do. -/
inductive Task where
  | reconcile (o : ReconcileOptions)
  | notifyTest (message : String)
  deriving DecidableEq, Repr

/-- What help can be about. -/
inductive Topic where
  | program
  | reconcile
  | notifyTest
  | help
  deriving DecidableEq, Repr

/-- What the arguments ask for. -/
inductive Request where
  | version
  | help (topic : Topic)
  | run (task : Task) (form : OutputForm)
  deriving DecidableEq, Repr

/-! ## 2. Options -/

/-- The options of the program and of its commands. -/
inductive Opt where
  | format | verbose | help | version
  | state | current | policy | entity | timeout | write
  | message
  deriving DecidableEq, Repr

namespace Opt

/-- The long name of an option. -/
def name : Opt → String
  | .format => "format"
  | .verbose => "verbose"
  | .help => "help"
  | .version => "version"
  | .state => "state"
  | .current => "current"
  | .policy => "policy"
  | .entity => "entity"
  | .timeout => "timeout"
  | .write => "write"
  | .message => "message"

/-- The letter that stands for an option. -/
def letter? : Opt → Option Char
  | .verbose => some 'v'
  | .help => some 'h'
  | .version => some 'V'
  | _ => none

/-- Whether an option is a flag, without a value. -/
def isFlag (o : Opt) : Bool := o ∈ [.verbose, .help, .version, .write]

end Opt

/-- The options that can be given to the program itself, or to a command, in the order in which
help lists them. -/
def Topic.options : Topic → List Opt
  | .program => [.format, .verbose, .help, .version]
  | .reconcile =>
    [.state, .current, .format, .policy, .entity, .verbose, .timeout, .write, .help]
  | .notifyTest => [.message, .format, .verbose, .help]
  | .help => []

/-! ## 3. Errors -/

/-- What is wrong with the arguments. -/
inductive UsageError where
  | unknownOption (argument : String)
  | unknownCommand (argument : String)
  | surplusArgument (argument : String)
  | repeatedOption (o : Opt)
  | valueMissing (o : Opt)
  | valueUnwanted (o : Opt)
  | valueRefused (o : Opt) (value : String)
  | timeRefused (value : String) (cause : PhraseError)
  | optionMissing (o : Opt)
  | commandMissing
  deriving DecidableEq, Repr

/-- The text of what is wrong. -/
def UsageError.message : UsageError → String
  | .unknownOption argument => "unexpected argument '" ++ argument ++ "' found"
  | .unknownCommand argument => "unrecognized subcommand '" ++ argument ++ "'"
  | .surplusArgument argument => "unexpected argument '" ++ argument ++ "' found"
  | .repeatedOption o => "the argument '--" ++ o.name ++ "' cannot be used multiple times"
  | .valueMissing o => "a value is required for '--" ++ o.name ++ "' but none was supplied"
  | .valueUnwanted o => "no value is expected for '--" ++ o.name ++ "'"
  | .valueRefused o value => "invalid value '" ++ value ++ "' for '--" ++ o.name ++ "'"
  | .timeRefused value cause =>
    "invalid value '" ++ value ++ "' for '--" ++ Opt.timeout.name ++ "': " ++ cause.message
  | .optionMissing o => "the required argument '--" ++ o.name ++ "' was not provided"
  | .commandMissing => "a subcommand is required"

/-- Whether the reading is broken off, instead of the error being reported. -/
def UsageError.isAbrupt : UsageError → Bool
  | .timeRefused _ cause => cause.isAbrupt
  | _ => false

/-- What is wrong with a text as the value of an option. A path is not empty. -/
def Opt.objection? (o : Opt) (v : String) : Option UsageError :=
  match o with
  | .format => if v ∈ ["json", "text"] then none else some (.valueRefused o v)
  | .state => if v = "" then some (.valueRefused o v) else none
  | .current => if v = "" then some (.valueRefused o v) else none
  | .timeout =>
    match Phrase.read v with
    | .ok _ => none
    | .error cause => some (.timeRefused v cause)
  | _ => none

/-! ## 4. One argument -/

/-- What an argument looks like. -/
inductive Shape where
  /-- A word, or a lone dash. -/
  | word
  /-- Two dashes, after which nothing is an option. -/
  | separator
  /-- A dash and the letters of flags. -/
  | letters (cs : List Char)
  /-- Two dashes and a name, with a value if there is an equals sign. -/
  | long (name : String) (value : Option String)
  deriving DecidableEq, Repr

/-- What an argument looks like. -/
def Shape.of (argument : String) : Shape :=
  match argument.toList with
  | ['-'] => .word
  | ['-', '-'] => .separator
  | '-' :: '-' :: cs =>
    let name := String.ofList (cs.takeWhile (· ≠ '='))
    match cs.dropWhile (· ≠ '=') with
    | [] => .long name none
    | _ :: value => .long name (some (String.ofList value))
  | '-' :: cs => .letters cs
  | _ => .word

/-! ## 5. Arguments in order -/

/-- Options that have been given, with their values. -/
abbrev Given : Type := List (Opt × String)

/-- Why the reading stops before the last argument. -/
inductive Stop where
  | refused (e : UsageError)
  | answered (r : Request)
  deriving DecidableEq, Repr

/-- An option more at one place. -/
def give (topic : Topic) (given : Given) (o : Opt) (value : String) : Except Stop Given :=
  if o = .help then .error (.answered (.help topic))
  else if o = .version then .error (.answered .version)
  else if (given.lookup o).isSome then .error (.refused (.repeatedOption o))
  else
    match o.objection? value with
    | none => .ok (given ++ [(o, value)])
    | some e => .error (.refused e)

/-- What has been read at one place: the options, and the last one of them if its value stood in an
argument of its own, which is looked at later. -/
structure Reading where
  given : Given
  open? : Option (Opt × String)

namespace Reading

/-- Nothing has been read. -/
def start : Reading := ⟨[], none⟩

/-- The options, with the last one looked at. -/
def settle (topic : Topic) (r : Reading) : Except Stop Given :=
  match r.open? with
  | none => .ok r.given
  | some (o, value) => give topic r.given o value

/-- An option more, after the last one has been looked at. -/
def give (topic : Topic) (r : Reading) (o : Opt) (value : String) : Except Stop Reading := do
  let given ← r.settle topic
  let given ← Command.give topic given o value
  .ok ⟨given, none⟩

/-- An error, after the last option has been looked at. -/
def refuse {α : Type} (topic : Topic) (r : Reading) (e : UsageError) : Except Stop α := do
  let _ ← r.settle topic
  .error (.refused e)

/-- An option whose value is looked at later. -/
def await (topic : Topic) (r : Reading) (o : Opt) (value : String) : Except Stop Reading := do
  let given ← r.settle topic
  .ok ⟨given, some (o, value)⟩

/-- The flags of an argument of letters. -/
def giveLetters (topic : Topic) (r : Reading) : List Char → Except Stop Reading
  | [] => .ok r
  | c :: cs =>
    match topic.options.find? (·.letter? = some c) with
    | none => r.refuse topic (.unknownOption (String.ofList ['-', c]))
    | some o => do
      let r ← r.give topic o ""
      r.giveLetters topic cs

/-- The options before the first word, and the arguments from that word on. -/
def scan (topic : Topic) (r : Reading) : List String → Except Stop (Reading × List String)
  | [] => .ok (r, [])
  | argument :: rest =>
    match Shape.of argument with
    | .word => .ok (r, argument :: rest)
    | .separator =>
      match rest with
      | [] => .ok (r, [])
      | surplus :: _ => r.refuse topic (.surplusArgument surplus)
    | .letters cs => do
      let r ← r.giveLetters topic cs
      r.scan topic rest
    | .long name value =>
      match topic.options.find? (·.name = name) with
      | none => r.refuse topic (.unknownOption argument)
      | some o =>
        if o.isFlag then
          match value with
          | none => do
            let r ← r.give topic o ""
            r.scan topic rest
          | some _ => r.refuse topic (.valueUnwanted o)
        else
          match value with
          | some v => do
            let r ← r.give topic o v
            r.scan topic rest
          | none =>
            match rest with
            | [] => r.refuse topic (.valueMissing o)
            | v :: rest =>
              if Shape.of v = .word then do
                let r ← r.await topic o v
                r.scan topic rest
              else r.refuse topic (.valueMissing o)

end Reading

/-! ## 6. Commands -/

/-- The options after a command, where no word may stand. -/
def scanAll (topic : Topic) (arguments : List String) : Except Stop Given := do
  match ← Reading.start.scan topic arguments with
  | (r, []) => r.settle topic
  | (r, surplus :: _) => r.refuse topic (.surplusArgument surplus)

/-- The form that was asked for last, by the options before and after the command. -/
def formOf (outer inner : Given) : OutputForm :=
  if (inner.lookup .format <|> outer.lookup .format) = some "text" then .text else .json

/-- The value of an option that has to be given. -/
def demand (given : Given) (o : Opt) : Except Stop String :=
  match given.lookup o with
  | some v => .ok v
  | none => .error (.refused (.optionMissing o))

/-- The options of a reconciliation. -/
def reconcileOptions (given : Given) : Except Stop ReconcileOptions := do
  let state ← demand given .state
  let current ← demand given .current
  .ok { state
        current
        policy := given.lookup .policy
        entity := given.lookup .entity
        timeout := (given.lookup .timeout).bind fun v => (Phrase.read v).toOption
        writesBack := (given.lookup .write).isSome }

/-- What a test says when nothing else is asked for. -/
def defaultMessage : String := "alertctl test notification"

/-- What help is asked for by the words after the command for help. -/
def helpTopic : List String → Except Stop Topic
  | [] => .ok .program
  | ["reconcile"] => .ok .reconcile
  | ["notify-test"] => .ok .notifyTest
  | ["help"] => .ok .help
  | first :: _ => .error (.refused (.unknownCommand first))

/-- The request of all arguments, or why the reading stopped. The last option before the command
is looked at after the command has been read. -/
def readAll (arguments : List String) : Except Stop Request := do
  match ← Reading.start.scan .program arguments with
  | (_, []) => .error (.refused .commandMissing)
  | (outer, command :: rest) =>
    match command with
    | "reconcile" => do
      let given ← scanAll .reconcile rest
      let o ← reconcileOptions given
      let outer ← outer.settle .program
      .ok (.run (.reconcile o) (formOf outer given))
    | "notify-test" => do
      let given ← scanAll .notifyTest rest
      let outer ← outer.settle .program
      .ok (.run (.notifyTest ((given.lookup .message).getD defaultMessage)) (formOf outer given))
    | "help" => do
      let topic ← helpTopic rest
      .ok (.help topic)
    | word => .error (.refused (.unknownCommand word))

/-- What the arguments ask for. -/
def read (arguments : List String) : Except UsageError Request :=
  match readAll arguments with
  | .ok r => .ok r
  | .error (.answered r) => .ok r
  | .error (.refused e) => .error e

end AlertLedger.Command
