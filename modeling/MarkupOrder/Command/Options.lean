import MarkupOrder.Text.Basic

/-!
# The command line

* `Options`: what the arguments ask for.
* `Invocation`: options to run with, or a request to print the version or the help.
* `UsageError`: why arguments are refused.
* `Options.ofArguments`: the invocation of a list of arguments. Arguments are taken from left to
  right, and the first one that cannot be taken is reported; whether they go together is checked
  last.
-/

namespace MarkupOrder.Command

/-- The switches, which take no value. -/
inductive Switch where
  | write
  | stdio
  | tokens
  | tree
  | quiet
deriving DecidableEq, Repr

/-- What the arguments ask for: the switches that are on, the patterns in order, and the files. -/
structure Options where
  switches : List Switch
  patterns : List Text
  files : List Text
deriving DecidableEq, Repr

/-- What a run of the program is to do. -/
inductive Invocation where
  | run (o : Options)
  | version
  | help
deriving DecidableEq, Repr

/-- Why arguments are refused. -/
inductive UsageError where
  | unknownOption (name : Text)
  /-- A value for an option that takes none. -/
  | unwantedValue (name : Text)
  | missingValue (name : Text)
  | repeated (s : Switch)
  | conflict (s t : Switch)
  /-- Files together with the switch that reads standard input. -/
  | filesWithStdio
  | emptyFileName
deriving DecidableEq, Repr

namespace Switch

/-- The long name of a switch. -/
def name : Switch → String
  | write => "write"
  | stdio => "stdio"
  | tokens => "tokens"
  | tree => "tree"
  | quiet => "quiet"

/-- Every switch, once. -/
def all : List Switch := [write, stdio, tokens, tree, quiet]

/-- The switch of a long name. -/
def named? (name : Text) : Option Switch := all.find? fun s => s.name.toList == name

/-- The switch of a letter. -/
def lettered? : Char → Option Switch
  | 'w' => some write
  | 'q' => some quiet
  | _ => none

/-- The pairs of switches that do not go together. -/
def conflicts : List (Switch × Switch) :=
  [(write, stdio), (tokens, tree), (tokens, write), (tree, write)]

end Switch

namespace UsageError

/-- The error message. -/
def message : UsageError → Text
  | unknownOption name => "unexpected argument '".toList ++ name ++ "'".toList
  | unwantedValue name => "unexpected value for '--".toList ++ name ++ "'".toList
  | missingValue name => "a value is required for '".toList ++ name ++ "'".toList
  | repeated s => ("the argument '--" ++ s.name ++ "' cannot be used multiple times").toList
  | conflict s t =>
    ("the argument '--" ++ s.name ++ "' cannot be used with '--" ++ t.name ++ "'").toList
  | filesWithStdio => "the argument '--stdio' cannot be used with files".toList
  | emptyFileName => "a file name is empty".toList

end UsageError

namespace Options

/-- No arguments. -/
def none : Options := ⟨[], [], []⟩

/-- Whether a switch is on. -/
def has (o : Options) (s : Switch) : Bool := o.switches.contains s

/-- Turn a switch on, which can be done once. -/
def turnOn (o : Options) (s : Switch) : Except UsageError Options :=
  if o.has s then .error (.repeated s) else .ok { o with switches := o.switches ++ [s] }

/-- The parts of a text between commas. -/
def splitCommas : Text → List Text
  | [] => [[]]
  | c :: t =>
    if c = ',' then [] :: splitCommas t
    else
      match splitCommas t with
      | [] => [[c]]
      | part :: parts => (c :: part) :: parts

/-- Add the patterns of a value, which are separated by commas. -/
def addPatterns (o : Options) (value : Text) : Options :=
  { o with patterns := o.patterns ++ splitCommas value }

/-- Add a file. -/
def addFile (o : Options) (name : Text) : Except UsageError Options :=
  if name.isEmpty then .error .emptyFileName else .ok { o with files := o.files ++ [name] }

/-- Add files. -/
def addFiles (o : Options) : List Text → Except UsageError Options
  | [] => .ok o
  | name :: names => do (← o.addFile name).addFiles names

/-- How an argument leaves the options. -/
inductive Taken where
  | options (o : Options)
  /-- The argument was the pattern option and its value comes next. -/
  | wantsPatterns (o : Options)
  | version
  | help

/-- Take the letters behind a single hyphen. The pattern option takes the rest of them as its value,
with or without `=`. -/
def takeLetters (o : Options) : Text → Except UsageError Taken
  | [] => .ok (.options o)
  | 'o' :: [] => .ok (.wantsPatterns o)
  | 'o' :: '=' :: value => .ok (.options (o.addPatterns value))
  | 'o' :: value => .ok (.options (o.addPatterns value))
  | 'V' :: _ => .ok .version
  | 'h' :: _ => .ok .help
  | c :: letters =>
    match Switch.lettered? c with
    | some s => do takeLetters (← o.turnOn s) letters
    | .none => .error (.unknownOption ['-', c])

/-- Take a long option, given by its name and its value if it has one. -/
def takeLong (o : Options) (name : Text) (value? : Option Text) : Except UsageError Taken :=
  if name = "order".toList then
    match value? with
    | some value => .ok (.options (o.addPatterns value))
    | .none => .ok (.wantsPatterns o)
  else if name = "version".toList then
    if value?.isSome then .error (.unwantedValue name) else .ok .version
  else if name = "help".toList then
    if value?.isSome then .error (.unwantedValue name) else .ok .help
  else
    match Switch.named? name with
    | some s =>
      if value?.isSome then .error (.unwantedValue name) else (o.turnOn s).map .options
    | .none => .error (.unknownOption (['-', '-'] ++ name))

/-- The value of a long option, if `=` follows its name. -/
def longValue? (t : Text) : Option Text :=
  match t.dropWhile (· != '=') with
  | [] => .none
  | _ :: value => some value

/-- Take an argument. A lone hyphen is the name of a file. -/
def take (o : Options) : Text → Except UsageError Taken
  | '-' :: '-' :: long => o.takeLong (long.takeWhile (· != '=')) (longValue? long)
  | '-' :: c :: letters => o.takeLetters (c :: letters)
  | name => (o.addFile name).map .options

/-- Whether an argument can be the value of the option before it. -/
def isValue : Text → Bool
  | '-' :: _ :: _ => false
  | _ => true

/-- Check that the options go together. -/
def check (o : Options) : Except UsageError Invocation :=
  match Switch.conflicts.find? fun (s, t) => o.has s && o.has t with
  | some (s, t) => .error (.conflict s t)
  | .none => if o.has .stdio && !o.files.isEmpty then .error .filesWithStdio else .ok (.run o)

/-- Take all arguments. Behind two hyphens, every argument is the name of a file. -/
def takeAll (o : Options) : List Text → Except UsageError Invocation
  | [] => o.check
  | arg :: args =>
    if arg = ['-', '-'] then do (← o.addFiles args).check
    else do
      match ← o.take arg with
      | .options o => o.takeAll args
      | .version => return .version
      | .help => return .help
      | .wantsPatterns o =>
        match args with
        | [] => throw (.missingValue arg)
        | value :: args =>
          if isValue value then (o.addPatterns value).takeAll args
          else throw (.missingValue arg)

/-- The invocation of a list of arguments. -/
def ofArguments (args : List Text) : Except UsageError Invocation := none.takeAll args

end Options

end MarkupOrder.Command
