import KitSurface.CommandLine.Argument
/-!
Reading the words of a command line. An option takes the word after it as its value unless that
word begins with a dash, and a value is looked at only when the next argument is known, so that an
argument which is not known is reported first. After two dashes every word is a plain one.
-/

namespace KitSurface.CommandLine

/-- The arguments that a command knows. -/
structure Signature where
  /-- The arguments with dashes. -/
  options : List Argument
  /-- The arguments that are plain words, in their order. -/
  positionals : List Argument
  /-- The arguments that must be given. -/
  required : List Argument
  /-- The names of the commands below this one. -/
  subcommands : List String

/-- How far the words of a command are read. -/
structure Progress where
  given : Given := {}
  /-- An argument that is not looked at yet, with its value if that was read. -/
  pending : Option (Argument × Option String) := none
  /-- Two dashes were read. -/
  plainOnly : Bool := false
  /-- The number of plain words read. -/
  plainCount : Nat := 0
  deriving Repr

namespace Progress

/-- Looks at the argument that is pending. -/
def resolve (p : Progress) : Except UsageError Progress :=
  match p.pending with
  | none => .ok p
  | some (a, value) => return { p with given := ← p.given.setOption a value, pending := none }

def addFlag (p : Progress) (a : Argument) : Except UsageError Progress := do
  let p ← p.resolve
  return { p with given := ← p.given.setFlag a }

/-- Adds an option, with its value if that is part of the same word. -/
def addOption (p : Progress) (a : Argument) (attached : Option String) :
    Except UsageError Progress := do
  let p ← p.resolve
  match attached with
  | some value => return { p with given := ← p.given.setOption a (some value) }
  | none => return { p with pending := some (a, none) }

end Progress

namespace Signature

/-- Reads a word that begins with two dashes, given the text behind them. -/
def readLong (s : Signature) (p : Progress) (text : List Char) : Except UsageError Progress :=
  let name := String.ofList (text.takeWhile (· != '='))
  let attached := match text.dropWhile (· != '=') with
    | [] => none
    | _ :: value => some (String.ofList value)
  match s.options.find? fun a => a.long? = some name with
  | none => .error (.argumentUnknown ("--" ++ name))
  | some a =>
    if a.valueName?.isSome then p.addOption a attached
    else match attached with
      | some value => .error (.valueUnexpected value a)
      | none => p.addFlag a

/-- Reads the letters behind one dash. The first option that takes a value takes the rest of the
word, without an equals sign in front of it. -/
def readShort (s : Signature) (p : Progress) : List Char → Except UsageError Progress
  | [] => .ok p
  | c :: rest =>
    match s.options.find? fun a => a.short? = some c with
    | none => .error (.argumentUnknown ("-" ++ String.ofList [c]))
    | some a =>
      if a.valueName?.isSome then
        p.addOption a <| match rest with
          | [] => none
          | '=' :: value => some (String.ofList value)
          | value => some (String.ofList value)
      else do
        readShort s (← p.addFlag a) rest

/-- The error on a plain word that a command has no place for. -/
def unexpectedWord (s : Signature) (p : Progress) (word : String) : UsageError :=
  if s.subcommands.isEmpty || (p.plainOnly && word ∈ s.subcommands) then .argumentUnknown word
  else .commandUnknown word

/-- Reads a plain word: the value of a pending option that waits for one, or the next positional
argument. -/
def readPlain (s : Signature) (p : Progress) (word : String) : Except UsageError Progress :=
  match p.plainOnly, p.pending with
  | false, some (a, none) => .ok { p with pending := some (a, some word) }
  | _, _ =>
    match s.positionals[p.plainCount]? with
    | none => .error (s.unexpectedWord p word)
    | some a => do
      let p ← p.resolve
      return { p with pending := some (a, some word), plainCount := p.plainCount + 1 }

def readWord (s : Signature) (p : Progress) (word : String) : Except UsageError Progress :=
  if p.plainOnly then s.readPlain p word
  else match word.toList with
    | ['-', '-'] => .ok { p with plainOnly := true }
    | '-' :: '-' :: text => s.readLong p text
    | ['-'] => s.readPlain p word
    | '-' :: text => s.readShort p text
    | _ => s.readPlain p word

/-- Two counted arguments exclude each other. -/
def checkExclusive (g : Given) : Except UsageError Unit :=
  match g.counts with
  | (a, _) :: (b, _) :: _ => .error (.exclusive a b)
  | _ => .ok ()

/-- Every argument that must be given is given. -/
def checkRequired (s : Signature) (g : Given) : Except UsageError Unit :=
  match s.required.filter fun a => !g.has a with
  | [] => .ok ()
  | missing => .error (.argumentsMissing missing)

/-- Reads the words of a command without commands below it. -/
def read (s : Signature) (words : List String) : Except UsageError Given := do
  let p ← (← words.foldlM s.readWord {}).resolve
  checkExclusive p.given
  s.checkRequired p.given
  return p.given

/-- Reads words up to the name of a command, and returns that name with the words behind it. -/
def readHead (s : Signature) : Progress → List String →
    Except UsageError (Given × Option (String × List String))
  | p, [] => .ok (p.given, none)
  | p, word :: words =>
    if !p.plainOnly && word ∈ s.subcommands then .ok (p.given, some (word, words))
    else do readHead s (← s.readWord p word) words

end Signature

end KitSurface.CommandLine
