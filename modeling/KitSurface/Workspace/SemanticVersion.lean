import KitSurface.Text.Basic
import KitSurface.Text.Quoted
/-!
Semantic versions and requirements on them. A version is three numbers with points between them, a
pre-release behind a dash, and build metadata behind a plus sign; these two are identifiers of
segments with points between them. A requirement is a list of comparators: an operator and a
version that can be partial or end in a wildcard.
-/

namespace KitSurface

inductive VersionPart where
  | major
  | minor
  | patch
  | preRelease
  | build
  deriving DecidableEq, Repr

namespace VersionPart

def title : VersionPart → String
  | major => "major version number"
  | minor => "minor version number"
  | patch => "patch version number"
  | preRelease => "pre-release identifier"
  | build => "build metadata"

end VersionPart

/-- Why a text is no version or no requirement. -/
inductive SemanticVersionError where
  | empty
  | ended (part : VersionPart)
  | unexpected (found : Char) (part : VersionPart)
  | unexpectedAfter (found : Char) (part : VersionPart)
  | commaExpected (found : Char) (part : VersionPart)
  | leadingZero (part : VersionPart)
  | tooGreat (part : VersionPart)
  | emptySegment (part : VersionPart)
  /-- A wildcard stands for a whole comparator beside others. -/
  | wildcardNotAlone (wildcard : Char)
  | behindWildcard
  | tooManyComparators
  deriving DecidableEq, Repr

namespace SemanticVersionError

def message : SemanticVersionError → String
  | empty => "empty string, expected a semver version"
  | ended part => "unexpected end of input while parsing " ++ part.title
  | unexpected found part =>
    "unexpected character " ++ Text.quoteChar found ++ " while parsing " ++ part.title
  | unexpectedAfter found part =>
    "unexpected character " ++ Text.quoteChar found ++ " after " ++ part.title
  | commaExpected found part =>
    "expected comma after " ++ part.title ++ ", found " ++ Text.quoteChar found
  | leadingZero part => "invalid leading zero in " ++ part.title
  | tooGreat part => "value of " ++ part.title ++ " exceeds u64::MAX"
  | emptySegment part => "empty identifier segment in " ++ part.title
  | wildcardNotAlone wildcard =>
    "wildcard req (" ++ String.ofList [wildcard] ++
      ") must be the only comparator in the version req"
  | behindWildcard => "unexpected character after wildcard in version req"
  | tooManyComparators => "excessive number of version comparators"

end SemanticVersionError

structure SemanticVersion where
  major : Nat
  minor : Nat
  patch : Nat
  preRelease : String
  build : String
  deriving DecidableEq, Repr

namespace SemanticVersion

abbrev Reading := Except SemanticVersionError

/-- Reads a number of 64 bits without leading zeros. -/
def readNumber (part : VersionPart) (text : List Char) : Reading (Nat × List Char) :=
  let digits := text.takeWhile Char.isDigit
  let rest := text.dropWhile Char.isDigit
  match digits, rest with
  | [], [] => .error (.ended part)
  | [], c :: _ => .error (.unexpected c part)
  | '0' :: _ :: _, _ => .error (.leadingZero part)
  | _, _ =>
    let value := Text.digitsValue 0 digits
    if value < UInt64.size then .ok (value, rest) else .error (.tooGreat part)

def skipPoint (part : VersionPart) : List Char → Reading (List Char)
  | [] => .error (.ended part)
  | '.' :: rest => .ok rest
  | c :: _ => .error (.unexpectedAfter c part)

def isIdentifierChar (c : Char) : Bool :=
  c.isAlphanum || c = '-'

/-- A segment of an identifier is not empty, and a number in a pre-release has no leading zero. -/
def checkSegment (part : VersionPart) (segment : List Char) : Reading Unit :=
  if segment.isEmpty then .error (.emptySegment part)
  else if part = .preRelease && segment.all Char.isDigit && segment.length > 1 &&
      segment.head? = some '0' then
    .error (.leadingZero part)
  else .ok ()

def readIdentifier (part : VersionPart) (text : List Char) : Reading (String × List Char) := do
  let belongs (c : Char) : Bool := isIdentifierChar c || c = '.'
  let identifier := text.takeWhile belongs
  (identifier.splitOn '.').forM (checkSegment part)
  return (String.ofList identifier, text.dropWhile belongs)

/-- Reads the identifier of a part behind the mark that it has in front, if the mark is there. -/
def readMarked (mark : Char) (part : VersionPart) (text : List Char) :
    Reading (Option String × List Char) :=
  match text with
  | [] => .ok (none, [])
  | c :: rest =>
    if c = mark then (readIdentifier part rest).map fun (identifier, rest) => (some identifier, rest)
    else .ok (none, text)

def parse (text : String) : Reading SemanticVersion := do
  if text.isEmpty then throw .empty
  let (major, rest) ← readNumber .major text.toList
  let (minor, rest) ← readNumber .minor (← skipPoint .major rest)
  let (patch, rest) ← readNumber .patch (← skipPoint .minor rest)
  let (preRelease, rest) ← readMarked '-' .preRelease rest
  let (build, rest) ← readMarked '+' .build rest
  match rest with
  | [] => return ⟨major, minor, patch, preRelease.getD "", build.getD ""⟩
  | c :: _ =>
    let last : VersionPart :=
      if build.isSome then .build else if preRelease.isSome then .preRelease else .patch
    throw (.unexpectedAfter c last)

end SemanticVersion

namespace VersionRequirement

open SemanticVersion (Reading readNumber readMarked)

def dropSpaces (text : List Char) : List Char :=
  text.dropWhile (· == ' ')

/-- The wildcard at the front of a text, and the text behind it. -/
def wildcard? : List Char → Option (Char × List Char)
  | c :: rest => if c = '*' || c = 'x' || c = 'X' then some (c, rest) else none
  | [] => none

def dropOperator : List Char → List Char
  | '>' :: '=' :: rest | '<' :: '=' :: rest => rest
  | '=' :: rest | '>' :: rest | '<' :: rest | '~' :: rest | '^' :: rest => rest
  | text => text

/-- Passes over what follows the patch number of a comparator, and returns the last part that is
there. -/
def skipLabels (text : List Char) : Reading (VersionPart × List Char) := do
  let (preRelease, text) ← readMarked '-' .preRelease text
  let (build, text) ← readMarked '+' .build text
  return (if build.isSome then .build else if preRelease.isSome then .preRelease else .patch, text)

/-- Passes over what follows the minor number of a comparator, which is a wildcard or not. Behind a
wildcard there can be only another one. -/
def skipPatch (behindWildcard : Bool) : List Char → Reading (VersionPart × List Char)
  | '.' :: text =>
    match wildcard? text with
    | some (_, text) => .ok (.patch, text)
    | none => do
      if behindWildcard then throw .behindWildcard
      let (_, text) ← readNumber .patch text
      skipLabels text
  | text => .ok (.minor, text)

/-- Passes over a comparator, and returns the last part that is there. -/
def skipComparator (text : List Char) : Reading (VersionPart × List Char) := do
  let (_, text) ← readNumber .major (dropSpaces (dropOperator text))
  match text with
  | '.' :: text =>
    match wildcard? text with
    | some (_, text) => skipPatch true text
    | none =>
      let (_, text) ← readNumber .minor text
      skipPatch false text
  | _ => return (.major, text)

/-- The error of a text that is no comparator: a wildcard between commas has its own. -/
def comparatorError (text : List Char) (e : SemanticVersionError) : SemanticVersionError :=
  match wildcard? text with
  | some (c, rest) =>
    match dropSpaces rest with
    | [] | ',' :: _ => .wildcardNotAlone c
    | _ => e
  | none => e

/-- Checks comparators with commas between them, of which there are `count` at most. -/
def checkComparators : Nat → List Char → Reading Unit
  | 0, _ => .error .tooManyComparators
  | count + 1, text => do
    let (last, rest) ← (skipComparator text).mapError (comparatorError text)
    match dropSpaces rest with
    | [] => return
    | ',' :: rest => checkComparators count (dropSpaces rest)
    | c :: _ => throw (.commaExpected c last)

/-- The greatest number of comparators of a requirement. -/
def comparatorLimit : Nat := 32

/-- Checks that a text is a requirement: a wildcard, or comparators. -/
def check (text : String) : Reading Unit :=
  let text := dropSpaces text.toList
  match wildcard? text with
  | some (c, rest) =>
    match dropSpaces rest with
    | [] => .ok ()
    | ',' :: _ => .error (.wildcardNotAlone c)
    | _ => .error .behindWildcard
  | none => checkComparators comparatorLimit text

end VersionRequirement

end KitSurface
