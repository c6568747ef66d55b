import KitSurface.CommandLine.Reader
import KitSurface.HeaderSearch
import KitSurface.Kit
import KitSurface.Surface.Text
/-!
The commands of the command line. A command line is read into a command and a verbosity; running
the command prints a text, may write a file, and may fail.
-/

namespace KitSurface.CommandLine

/-- What a command line asks for. -/
inductive Command where
  | list (s : Surface)
  | render (s : Surface) (output : Option Path)
  | markers (context : Option BuildContext)
  | diff (first second : Surface)
  | check (s : Surface) (kitRoot : Option Path) (sdkVersion : Option String) (a : Architecture)
  deriving Repr

/-- How much is logged. -/
inductive Verbosity where
  | off
  | error
  | warn
  | info
  | debug
  | trace
  deriving DecidableEq, Repr

namespace Verbosity

/-- The levels from the quietest to the most talkative. -/
def levels : List Verbosity :=
  [off, error, warn, info, debug, trace]

def name : Verbosity → String
  | off => "Off"
  | error => "Error"
  | warn => "Warn"
  | info => "Info"
  | debug => "Debug"
  | trace => "Trace"

/-- The level that is some steps above the one of errors and some steps below it. -/
def ofSteps (up down : Nat) : Verbosity :=
  levels[min (1 + up - down) 5]?.getD trace

end Verbosity

structure Invocation where
  command : Command
  verbosity : Verbosity
  deriving Repr

inductive CommandName where
  | list
  | render
  | markers
  | diff
  | check
  deriving DecidableEq, Repr

namespace CommandName

/-- Every command, in the order of the help. -/
def all : List CommandName :=
  [list, render, markers, diff, check]

def name : CommandName → String
  | list => "list"
  | render => "render"
  | markers => "markers"
  | diff => "diff"
  | check => "check"

def commonOptions : List Argument :=
  [.verbose, .quiet, .help]

def surfaceOptions : List Argument :=
  Toggle.all.map .toggle ++ [.spbCxVersion]

def signature : CommandName → Signature
  | list => ⟨.context :: surfaceOptions ++ commonOptions, [], [.context], []⟩
  | render => ⟨.context :: surfaceOptions ++ .output :: commonOptions, [], [.context], []⟩
  | markers => ⟨.context :: commonOptions, [], [], []⟩
  | diff =>
    ⟨surfaceOptions ++ commonOptions, [.firstContext, .secondContext],
      [.firstContext, .secondContext], []⟩
  | check =>
    ⟨.context :: surfaceOptions ++ [.kitRoot, .sdkVersion, .target] ++ commonOptions, [],
      [.context], []⟩

/-- The command that the arguments of a command line make, once those it must have are given. -/
def command? (n : CommandName) (g : Given) : Option Command :=
  match n with
  | list => g.context.map fun c => .list ⟨c, g.surfaceOptions⟩
  | render => g.context.map fun c => .render ⟨c, g.surfaceOptions⟩ g.output
  | markers => some (.markers g.context)
  | diff => do
    return .diff ⟨← g.firstContext, .default⟩ ⟨← g.secondContext, g.surfaceOptions⟩
  | check => g.context.map fun c =>
    .check ⟨c, g.surfaceOptions⟩ g.kitRoot g.sdkVersion (g.target.getD .amd64)

/-- The command of the arguments, or an error that names those it must have. -/
def command (n : CommandName) (g : Given) : Except UsageError Command :=
  match n.command? g with
  | some c => .ok c
  | none => .error (.argumentsMissing n.signature.required)

end CommandName

/-- The name of the command that explains others. -/
def helpName : String := "help"

/-- The arguments before the name of a command. -/
def headSignature : Signature :=
  ⟨[.verbose, .quiet, .help, .version], [], [], CommandName.all.map CommandName.name ++ [helpName]⟩

/-- The error that the words behind the command for help end in; a command has none below it. -/
def helpOn (words : List String) : UsageError :=
  match words with
  | [] => .helpWanted
  | word :: rest =>
    if word ∈ headSignature.subcommands then
      match rest with
      | [] => .helpWanted
      | next :: _ => .commandUnknown next
    else .commandUnknown word

/-- The verbosity of a command line. What is given behind the name of the command counts, and what
is given before it where nothing is. -/
def verbosity (head rest : Given) : Verbosity :=
  let count (a : Argument) : Nat := ((rest.count? a).or (head.count? a)).getD 0
  .ofSteps (count .verbose) (count .quiet)

def parse (words : List String) : Except UsageError Invocation := do
  match ← headSignature.readHead {} words with
  | (head, none) =>
    if head.counts.isEmpty then throw .nothingGiven else throw .commandMissing
  | (head, some (name, rest)) =>
    match CommandName.all.find? fun n => n.name = name with
    | none => throw (helpOn rest)
    | some n =>
      let given ← n.signature.read rest
      Signature.checkExclusive head
      return ⟨← n.command given, verbosity head given⟩

/-- Why a command fails. -/
inductive CommandError where
  | notWritten (error : FileError)
  | kitNotFound
  | surface (error : CheckError)
  deriving Repr

namespace CommandError

/-- The first line of what is said about a failure. -/
def message : CommandError → String
  | notWritten error => "failed to write wrapper header to " ++ error.path.text
  | kitNotFound =>
    "WDKContentRoot could not be detected. Pass --wdk-content-root, or run from an eWDK prompt"
  | surface error => error.message

def causes : CommandError → List String
  | notWritten error => [error.fault.message]
  | surface (.file error) | surface (.config (.file error)) => [error.fault.message]
  | _ => []

end CommandError

/-- What a command leaves behind: the text that it prints, and the files. -/
structure Outcome where
  output : String
  tree : FileTree
  deriving Repr

namespace Command

def listedMarkers : Option BuildContext → List Marker
  | some c => (Surface.mk c .default).markers
  | none => Marker.all

/-- What is said about the difference of two surfaces. -/
def differenceText (first second : Surface) : String :=
  let d := first.difference second
  if d.isEmpty then
    "the `" ++ first.context.name ++ "` and `" ++ second.context.name ++
      "` surfaces expose the same declarations\n"
  else d.text

def checkText (s : Surface) (headers : List FoundHeader) : String :=
  Nat.repr headers.length ++ " headers of the `" ++ s.context.name ++
    "` surface resolved with no supplemental type conflicts\n"

def run (env : Environment) (tree : FileTree) : Command → Except CommandError Outcome
  | list s => .ok ⟨s.listing, tree⟩
  | render s none => .ok ⟨s.wrapperHeader, tree⟩
  | render s (some output) =>
    match tree.write output s.wrapperHeader with
    | .ok tree => .ok ⟨"", tree⟩
    | .error fault => .error (.notWritten ⟨output, fault⟩)
  | markers c => .ok ⟨Surface.markerListing (listedMarkers c), tree⟩
  | diff first second => .ok ⟨differenceText first second, tree⟩
  | check s kitRoot sdkVersion architecture =>
    match kitRoot.or (Kit.detectRoot env tree) with
    | none => .error .kitNotFound
    | some root =>
      let config : Config :=
        { root, architecture, context := s.context, options := s.options, sdkVersion }
      match config.check tree with
      | .ok headers => .ok ⟨checkText s headers, tree⟩
      | .error e => .error (.surface e)

end Command

end KitSurface.CommandLine
