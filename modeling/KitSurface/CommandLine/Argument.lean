import KitSurface.Context
import KitSurface.CommandLine.Terminal
import KitSurface.Options
import KitSurface.Path
/-!
The arguments of the command line: what they are called, which of them take a value, and what is
gathered from them while a command line is read.
-/

namespace KitSurface.CommandLine

inductive Argument where
  | verbose
  | quiet
  | help
  | version
  | context
  | toggle (t : Toggle)
  | spbCxVersion
  | output
  | kitRoot
  | sdkVersion
  | target
  | firstContext
  | secondContext
  deriving DecidableEq, Repr

namespace Argument

/-- The name of a toggle's argument after its two dashes: what is off unless asked for is switched
on by its key, and the rest is switched off. -/
def toggleName (t : Toggle) : String :=
  if t.default then "no-" ++ t.key else t.key

/-- The name of an argument after its two dashes. -/
def long? : Argument → Option String
  | verbose => some "verbose"
  | quiet => some "quiet"
  | help => some "help"
  | version => some "version"
  | context => some "context"
  | toggle t => some (toggleName t)
  | spbCxVersion => some "spb-cx-version"
  | output => some "output"
  | kitRoot => some "wdk-content-root"
  | sdkVersion => some "sdk-version"
  | target => some "target-arch"
  | firstContext | secondContext => none

def short? : Argument → Option Char
  | verbose => some 'v'
  | quiet => some 'q'
  | help => some 'h'
  | version => some 'V'
  | output => some 'o'
  | _ => none

/-- What messages call the value of an argument that takes one. -/
def valueName? : Argument → Option String
  | context => some "CONTEXT"
  | spbCxVersion => some "MAJOR.MINOR"
  | output => some "OUTPUT"
  | kitRoot => some "PATH"
  | sdkVersion => some "VERSION"
  | target => some "TARGET_ARCH"
  | firstContext => some "FROM"
  | secondContext => some "TO"
  | verbose | quiet | help | version | toggle _ => none

/-- An argument may be given more than once. -/
def isCounted (a : Argument) : Bool :=
  a = verbose || a = quiet

def shown (a : Argument) : String :=
  match a.long?, a.valueName? with
  | some long, some value => "--" ++ long ++ " <" ++ value ++ ">"
  | some long, none => "--" ++ long ++ (if a.isCounted then "..." else "")
  | none, some value => "<" ++ value ++ ">"
  | none, none => ""

end Argument

/-- Why the arguments of a command line are refused. Asking for help or for the version ends the
reading of a command line too. -/
inductive UsageError where
  | helpWanted
  | versionWanted
  /-- Nothing is given at all. -/
  | nothingGiven
  | commandMissing
  | commandUnknown (word : String)
  | argumentUnknown (word : String)
  | valueMissing (a : Argument)
  | valueUnexpected (value : String) (a : Argument)
  /-- The value is none of the possible ones. -/
  | valueNotListed (value : String) (a : Argument)
  | valueInvalid (value : String) (a : Argument) (reason : String)
  | repeated (a : Argument)
  | exclusive (a b : Argument)
  | argumentsMissing (missing : List Argument)
  deriving DecidableEq, Repr

namespace UsageError

def kind : UsageError → String
  | helpWanted => "DisplayHelp"
  | versionWanted => "DisplayVersion"
  | nothingGiven => "DisplayHelpOnMissingArgumentOrSubcommand"
  | commandMissing => "MissingSubcommand"
  | commandUnknown _ => "InvalidSubcommand"
  | argumentUnknown _ => "UnknownArgument"
  | valueMissing _ | valueNotListed _ _ => "InvalidValue"
  | valueUnexpected _ _ => "TooManyValues"
  | valueInvalid _ _ _ => "ValueValidation"
  | repeated _ | exclusive _ _ => "ArgumentConflict"
  | argumentsMissing _ => "MissingRequiredArgument"

def programName : String := "wdk-surface"

/-- What is said about a usage error, with the words of the command line in another colour; help
and the version are no errors. -/
def body? : UsageError → Option String
  | helpWanted | versionWanted | nothingGiven => none
  | commandMissing => some ("'" ++ programName ++ "' requires a subcommand but one was not provided")
  | commandUnknown word => some ("unrecognized subcommand '" ++ Terminal.coloured word ++ "'")
  | argumentUnknown word => some ("unexpected argument '" ++ Terminal.coloured word ++ "' found")
  | valueMissing a =>
    some ("a value is required for '" ++ a.shown ++ "' but none was supplied")
  | valueUnexpected value a =>
    some ("unexpected value '" ++ Terminal.coloured value ++ "' for '" ++ a.shown ++
      "' found; no more were expected")
  | valueNotListed value a =>
    some ("invalid value '" ++ Terminal.coloured value ++ "' for '" ++ a.shown ++ "'")
  | valueInvalid value a reason =>
    some ("invalid value '" ++ Terminal.coloured value ++ "' for '" ++ a.shown ++ "': " ++ reason)
  | repeated a => some ("the argument '" ++ a.shown ++ "' cannot be used multiple times")
  | exclusive a b =>
    some ("the argument '" ++ a.shown ++ "' cannot be used with '" ++ b.shown ++ "'")
  | argumentsMissing _ => some "the following required arguments were not provided:"

/-- Where to find help, behind what is said about an error. -/
def hint : String :=
  "\n\nFor more information, try '" ++ Terminal.emphasised "--help" ++ "'.\n"

/-- The first line of what is said about a usage error, as a terminal shows it. A control sequence
in a reason can reach into the hint behind it. -/
def message? (e : UsageError) : Option String :=
  e.body?.map fun body => Terminal.firstLine ("error: " ++ body ++ hint)

end UsageError

/-- What is gathered from the arguments of one command. -/
structure Given where
  /-- The counted arguments in the order of their last occurrence, with their counts. -/
  counts : List (Argument × Nat) := []
  toggles : List Toggle := []
  context : Option BuildContext := none
  spbCxVersion : Option Version := none
  output : Option Path := none
  kitRoot : Option Path := none
  sdkVersion : Option String := none
  target : Option Architecture := none
  firstContext : Option BuildContext := none
  secondContext : Option BuildContext := none
  deriving Repr

namespace Given

def count? (g : Given) (a : Argument) : Option Nat :=
  g.counts.lookup a

/-- One more occurrence of a counted argument; a count ends at 255. -/
def addCount (g : Given) (a : Argument) : Given :=
  { g with counts := (g.counts.filter fun entry => entry.1 ≠ a) ++
      [(a, min 255 ((g.count? a).getD 0 + 1))] }

def has (g : Given) : Argument → Bool
  | .verbose => (g.count? .verbose).isSome
  | .quiet => (g.count? .quiet).isSome
  | .help | .version => false
  | .context => g.context.isSome
  | .toggle t => g.toggles.contains t
  | .spbCxVersion => g.spbCxVersion.isSome
  | .output => g.output.isSome
  | .kitRoot => g.kitRoot.isSome
  | .sdkVersion => g.sdkVersion.isSome
  | .target => g.target.isSome
  | .firstContext => g.firstContext.isSome
  | .secondContext => g.secondContext.isSome

/-- The architectures that can be named, with their names. -/
def targets : List (String × Architecture) :=
  [("x64", .amd64), ("arm64", .arm64)]

def path (a : Argument) (value : String) : Except UsageError Path :=
  if value.isEmpty then .error (.valueMissing a) else .ok ⟨value⟩

def contextOf (a : Argument) (value : String) : Except UsageError BuildContext :=
  (BuildContext.parse value).mapError fun e => .valueInvalid value a e.message

/-- The architecture that a value names, whatever the case of its letters. -/
def targetOf (a : Argument) (value : String) : Except UsageError Architecture :=
  if value.isEmpty then .error (.valueMissing a)
  else match targets.lookup (value.map Char.toLower) with
    | some architecture => .ok architecture
    | none => .error (.valueNotListed value a)

/-- Adds an argument with its value, which must be one that the argument can have. -/
def setValue (g : Given) (a : Argument) (value : String) : Except UsageError Given :=
  match a with
  | .context => return { g with context := ← contextOf a value }
  | .firstContext => return { g with firstContext := ← contextOf a value }
  | .secondContext => return { g with secondContext := ← contextOf a value }
  | .spbCxVersion =>
    return { g with spbCxVersion :=
      ← (Version.parse value).mapError fun e => .valueInvalid value a e.message }
  | .output => return { g with output := ← path a value }
  | .kitRoot => return { g with kitRoot := ← path a value }
  | .sdkVersion => return { g with sdkVersion := some value }
  | .target => return { g with target := ← targetOf a value }
  | .verbose | .quiet | .help | .version | .toggle _ => return g

def setFlag (g : Given) (a : Argument) : Except UsageError Given :=
  match a with
  | .help => .error .helpWanted
  | .version => .error .versionWanted
  | .verbose | .quiet => .ok (g.addCount a)
  | .toggle t =>
    if g.toggles.contains t then .error (.repeated a)
    else .ok { g with toggles := g.toggles ++ [t] }
  | _ => .ok g

def setOption (g : Given) (a : Argument) (value : Option String) : Except UsageError Given :=
  match value with
  | none => .error (.valueMissing a)
  | some text => if g.has a then .error (.repeated a) else g.setValue a text

/-- The options of a surface: each toggle that is given is the opposite of its default. -/
def surfaceOptions (g : Given) : Options :=
  let toggled := g.toggles.foldl (fun o t => o.set t (!t.default)) Options.default
  match g.spbCxVersion with
  | some v => { toggled with spbCxVersion := v }
  | none => toggled

end Given

end KitSurface.CommandLine
