import MarkupOrder.Command.Files
import MarkupOrder.Command.Options
import MarkupOrder.Markup.Outline

/-!
# Running the program

A run is a function from arguments, standard input and files to what is printed, the files
afterwards and the exit status.

* `Action`: what is done with each document.
* `Session`: what a run has printed, warned of and written so far.
* `Session.runDocument`, `Session.runFile`, `Session.runFiles`: one document, one file, all files. A
  failure of one file leaves the others alone.
* `run`: the program.
* `filesOf`, `readsStandardInput`: what has to be read before a run.
-/

namespace MarkupOrder.Command

/-- What is done with each document. -/
inductive Action where
  | reorder (inPlace : Bool)
  | tokens
  | tree
deriving DecidableEq, Repr

/-- What options ask to be done. -/
def Options.action (o : Options) : Action :=
  if o.has .tokens then .tokens else if o.has .tree then .tree else .reorder (o.has .write)

/-- What a run has printed, warned of and written so far, and whether a document has failed. -/
structure Session where
  stdout : Text
  stderr : Text
  registry : WarningRegistry
  files : Files
  failed : Bool

namespace Session

/-- Print to standard output. -/
def print (s : Session) (t : Text) : Session := { s with stdout := s.stdout ++ t }

/-- Print diagnostics to standard error. -/
def report (terminal : Bool) (s : Session) (ds : List Diagnostic) : Session :=
  { s with stderr := s.stderr ++ Diagnostic.renderAll terminal ds }

/-- Report the failure of a document. -/
def fail (terminal : Bool) (s : Session) (name reason : Text) : Session :=
  { s.report terminal [⟨.error, "cli".toList, name ++ ": ".toList ++ reason⟩] with failed := true }

/-- Warn of what a document repeats. -/
def warn (terminal : Bool) (s : Session) (input : Text) : Session :=
  let (registry, ds) := Document.warn input s.registry
  { s with registry }.report terminal ds

/-- The token listing of a document, a line for every token. -/
def tokenListing (input : Text) : Text :=
  (Token.ofText input).flatMap fun t => t.render ++ ['\n']

/-- Process a document. It is printed unless it is to be written back to the file `target?`, which
happens only if it has changed. -/
def runDocument (terminal : Bool) (settings : OrderSettings) (action : Action) (name : Text)
    (target? : Option Text) (input : Text) (s : Session) : Session :=
  match action with
  | .tokens => s.print (tokenListing input)
  | .tree =>
    let s := s.warn terminal input
    match Document.parse settings input with
    | .error e => s.fail terminal name e.message
    | .ok nodes => s.print (Outline.render nodes)
  | .reorder inPlace =>
    let s := s.warn terminal input
    match Document.reorder settings input with
    | .error e => s.fail terminal name e.message
    | .ok output =>
      match inPlace, target? with
      | true, some target =>
        if output = input then s else { s with files := s.files.write target output }
      | _, _ => s.print output

/-- Process a file. -/
def runFile (terminal : Bool) (settings : OrderSettings) (action : Action) (s : Session)
    (name : Text) : Session :=
  match s.files.readText name with
  | .error e =>
    s.fail terminal name ("failed to read ".toList ++ name ++ ": ".toList ++ e.reason)
  | .ok input => s.runDocument terminal settings action name (some name) input

/-- Process files, one after another. -/
def runFiles (terminal : Bool) (settings : OrderSettings) (action : Action) (s : Session)
    (names : List Text) : Session :=
  names.foldl (runFile terminal settings action) s

end Session

/-- What a run leaves behind. -/
structure Outcome where
  code : Nat
  stdout : Text
  stderr : Text
  files : Files

namespace Outcome

/-- The outcome of a run that fails before it touches a document. -/
def failure (files : Files) (code : Nat) (message : Text) : Outcome :=
  ⟨code, [], "Error: ".toList ++ message, files⟩

/-- The outcome of a session. -/
def ofSession (s : Session) : Outcome := ⟨if s.failed then 1 else 0, s.stdout, s.stderr, s.files⟩

end Outcome

/-- The heading under which the cause of an error is printed. -/
def causedBy : Text := "\n\nCaused by:\n    ".toList

/-- The line that `--version` prints. -/
def versionLine : Text := "attorder 0.1.0\n".toList

/-- The text that `--help` prints. -/
def helpText : Text :=
  ("attorder: put template attributes in a fixed order\n\n" ++
    "Usage: attorder [OPTIONS] [FILE]...\n\n" ++
    "Arguments:\n" ++
    "  [FILE]...  Template files to process\n\n" ++
    "Options:\n" ++
    "  -o, --order <PATTERNS>  Regular expressions giving the attribute order, comma separated. " ++
    "Each must match a whole attribute name. Unmatched attributes follow in alphabetical order\n" ++
    "  -w, --write             Write the result back to each file instead of standard output\n" ++
    "      --stdio             Read standard input and write standard output (default without " ++
    "files)\n" ++
    "      --tokens            Print the token stream instead of rewriting\n" ++
    "      --tree              Print the parsed nodes instead of rewriting\n" ++
    "  -q, --quiet             Do not print warnings\n" ++
    "  -h, --help              Print help\n" ++
    "  -V, --version           Print version\n\n" ++
    "EXAMPLES:\n" ++
    "    # Put id first, then class, then everything else alphabetically\n" ++
    "    attorder -o id,class index.html\n\n" ++
    "    # Angular-style bindings: structural first, then inputs, then outputs\n" ++
    "    attorder -o '\\*.*' -o '\\[.*\\]' -o '\\(.*\\)' -w src/app/*.html\n\n" ++
    "    # Filter standard input\n" ++
    "    cat page.html | attorder -o id,class\n\n" ++
    "    # Show how a file is tokenized\n" ++
    "    attorder --tokens page.html\n").toList

/-- Run with options that go together. -/
def runOptions (terminal : Bool) (o : Options) (stdin : ByteArray) (files : Files) : Outcome :=
  match OrderSettings.ofSources (o.patterns.filter fun p => !p.isEmpty) with
  | .error e =>
    .failure files 1 ("invalid --order".toList ++ causedBy ++ "0: ".toList ++ e.message)
  | .ok settings =>
    let s : Session := ⟨[], [], ⟨[], !o.has .quiet⟩, files, false⟩
    if o.files.isEmpty then
      if o.action = .reorder true then
        .failure files 1 "--write needs at least one file\n".toList
      else
        match decode? stdin with
        | none =>
          .failure files 1
            ("failed to read standard input".toList ++ causedBy ++ InputError.notUtf8.reason ++
              ['\n'])
        | some input =>
          .ofSession (s.runDocument terminal settings o.action "<stdin>".toList none input)
    else .ofSession (s.runFiles terminal settings o.action o.files)

/-- The program: arguments, standard input and files to what a run leaves behind. -/
def run (terminal : Bool) (args : List Text) (stdin : ByteArray) (files : Files) : Outcome :=
  match Options.ofArguments args with
  | .error e => ⟨2, [], "error: ".toList ++ e.message ++ ['\n'], files⟩
  | .ok .version => ⟨0, versionLine, [], files⟩
  | .ok .help => ⟨0, helpText, [], files⟩
  | .ok (.run o) => runOptions terminal o stdin files

/-- The files that a run reads. -/
def filesOf (args : List Text) : List Text :=
  match Options.ofArguments args with
  | .ok (.run o) => o.files
  | _ => []

/-- Whether a run reads standard input. -/
def readsStandardInput (args : List Text) : Bool :=
  match Options.ofArguments args with
  | .ok (.run o) => o.files.isEmpty && !(o.action == .reorder true)
  | _ => false

end MarkupOrder.Command
