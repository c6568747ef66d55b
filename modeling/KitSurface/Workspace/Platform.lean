import KitSurface.Text.Letter
/-!
Platforms that a dependency is for: the name of a target, or a condition on the settings of a
build. A condition is a name, a name with a text, or a combination of conditions by `all`, `any`
and `not`.
-/

namespace KitSurface

namespace Condition

/-- The tokens of a condition. -/
inductive Token where
  | openParenthesis
  | closeParenthesis
  | comma
  | equals
  | name (text : List Char)
  | text
  deriving DecidableEq, Repr

namespace Token

def title : Token → String
  | openParenthesis => "`(`"
  | closeParenthesis => "`)`"
  | comma => "`,`"
  | equals => "`=`"
  | name _ => "an identifier"
  | text => "a string"

end Token

end Condition

inductive PlatformFault where
  | unterminatedText
  | unexpectedChar (found : Char)
  | unexpectedToken (expected : String) (found : Condition.Token)
  | ended (expected : String)
  /-- There is text behind the condition. -/
  | surplus (rest : String)
  /-- The name of a target holds an opening parenthesis. -/
  | parenthesisInName
  | charInName (found : Char)
  deriving DecidableEq, Repr

namespace PlatformFault

def message : PlatformFault → String
  | unterminatedText => "unterminated string in cfg"
  | unexpectedChar found =>
    "unexpected character `" ++ String.ofList [found] ++
      "` in cfg, expected parens, a comma, an identifier, or a string"
  | unexpectedToken expected found => "expected " ++ expected ++ ", found " ++ found.title
  | ended expected => "expected " ++ expected ++ ", but cfg expression ended"
  | surplus rest => "unexpected content `" ++ rest ++ "` found after cfg expression"
  | parenthesisInName =>
    "invalid target specifier: unexpected `(` character, " ++
      "cfg expressions must start with `cfg(`"
  | charInName found =>
    "invalid target specifier: unexpected character " ++ String.ofList [found] ++
      " in target name"

end PlatformFault

/-- A fault with the text that it was found in. -/
structure PlatformError where
  text : String
  fault : PlatformFault
  deriving DecidableEq, Repr

namespace PlatformError

def message (e : PlatformError) : String :=
  "failed to parse `" ++ e.text ++ "` as a cfg expression: " ++ e.fault.message

end PlatformError

namespace Condition

def isNameStart (c : Char) : Bool :=
  c.isAlpha || c = '_'

def isNameChar (c : Char) : Bool :=
  c.isAlphanum || c = '_'

def dropSpaces (text : List Char) : List Char :=
  text.dropWhile (· == ' ')

/-- The first token of a text, if there is one, and the text behind it. -/
def nextToken (text : List Char) : Except PlatformFault (Option Token × List Char) :=
  match dropSpaces text with
  | [] => .ok (none, [])
  | '(' :: rest => .ok (some .openParenthesis, rest)
  | ')' :: rest => .ok (some .closeParenthesis, rest)
  | ',' :: rest => .ok (some .comma, rest)
  | '=' :: rest => .ok (some .equals, rest)
  | '"' :: rest =>
    match rest.dropWhile (· != '"') with
    | [] => .error .unterminatedText
    | _ :: rest => .ok (some .text, rest)
  | c :: rest =>
    if isNameStart c then
      .ok (some (.name (c :: rest.takeWhile isNameChar)), rest.dropWhile isNameChar)
    else .error (.unexpectedChar c)

/-- The text behind a token, if the text begins with it. -/
def after? (token : Token) (text : List Char) : Option (List Char) :=
  match nextToken text with
  | .ok (some found, rest) => if found = token then some rest else none
  | _ => none

/-- Passes over a token that must be there. -/
def skipToken (token : Token) (text : List Char) : Except PlatformFault (List Char) := do
  match ← nextToken text with
  | (some found, rest) =>
    if found = token then return rest else throw (.unexpectedToken token.title found)
  | (none, _) => throw (.ended token.title)

/-- Passes over the text that a name is compared with, if it is compared. -/
def skipComparison (text : List Char) : Except PlatformFault (List Char) :=
  match after? .equals text with
  | none => .ok text
  | some rest => skipToken .text rest

/-- Passes over conditions with commas between them, up to the closing parenthesis; `skip` passes
over one of them. A condition takes a character or more, so that those of the text bound their
number. -/
def skipList (skip : List Char → Except PlatformFault (List Char)) :
    List Char → List Char → Except PlatformFault (List Char)
  | [], text => do skipToken .closeParenthesis (← skip text)
  | _ :: bound, text =>
    match after? .closeParenthesis text with
    | some rest => .ok rest
    | none => do
      let text ← skip text
      match after? .comma text with
      | some rest => skipList skip bound rest
      | none => skipToken .closeParenthesis text

/-- Passes over a condition. Each one around another takes a character or more, so that those of
the text bound their depth. -/
def skipFrom (bound text : List Char) : Except PlatformFault (List Char) := do
  let (token, rest) ← nextToken text
  match token, bound with
  | none, _ | _, [] => throw (.ended "start of a cfg expression")
  | some (.name word), _ :: bound =>
    if word = ['a', 'l', 'l'] || word = ['a', 'n', 'y'] then
      let inner ← skipToken .openParenthesis rest
      skipList (skipFrom bound) inner inner
    else if word = ['n', 'o', 't'] then
      skipToken .closeParenthesis (← skipFrom bound (← skipToken .openParenthesis rest))
    else skipComparison rest
  | some found, _ => throw (.unexpectedToken "identifier" found)

def check (text : List Char) : Except PlatformFault Unit := do
  match dropSpaces (← skipFrom text text) with
  | [] => return
  | rest => throw (.surplus (String.ofList rest))

end Condition

namespace Platform

def isNameChar (c : Char) : Bool :=
  Text.isLetterOrNumber c || c = '_' || c = '-' || c = '.'

def checkName (text : List Char) : Except PlatformFault Unit :=
  match text.find? fun c => !isNameChar c with
  | none => .ok ()
  | some c => .error (if '(' ∈ text then .parenthesisInName else .charInName c)

def condition? (text : List Char) : Option (List Char) :=
  match text with
  | 'c' :: 'f' :: 'g' :: '(' :: rest =>
    if rest.getLast? = some ')' then some rest.dropLast else none
  | _ => none

def check (text : String) : Except PlatformError Unit :=
  match condition? text.toList with
  | some condition =>
    (Condition.check condition).mapError (PlatformError.mk (String.ofList condition))
  | none => (checkName text.toList).mapError (PlatformError.mk text)

end Platform

end KitSurface
