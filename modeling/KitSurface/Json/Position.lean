/-!
Places in a JSON text. A text is read from a place onwards, and every fault of its form is reported
with the number of bytes up to it. A fault in a character counts one byte of it.
-/

namespace KitSurface.Json

/-- What can be wrong with the form of a JSON text. -/
inductive SyntaxFault where
  | endInArray
  | endInObject
  | endInString
  | endInValue
  | expectedColon
  | expectedCommaOrBracket
  | expectedCommaOrBrace
  | expectedIdentifier
  | expectedValue
  | invalidEscape
  | invalidNumber
  | numberOutOfRange
  | controlCharacter
  | keyNotString
  | loneSurrogate
  | unfinishedEscape
  | trailingComma
  | trailingCharacters
  /-- Too many arrays and objects lie inside one another. -/
  | tooDeep
  deriving DecidableEq, Repr

namespace SyntaxFault

def message : SyntaxFault → String
  | endInArray => "EOF while parsing a list"
  | endInObject => "EOF while parsing an object"
  | endInString => "EOF while parsing a string"
  | endInValue => "EOF while parsing a value"
  | expectedColon => "expected `:`"
  | expectedCommaOrBracket => "expected `,` or `]`"
  | expectedCommaOrBrace => "expected `,` or `\x7d`"
  | expectedIdentifier => "expected ident"
  | expectedValue => "expected value"
  | invalidEscape => "invalid escape"
  | invalidNumber => "invalid number"
  | numberOutOfRange => "number out of range"
  | controlCharacter => "control character (\\u0000-\\u001F) found while parsing a string"
  | keyNotString => "key must be a string"
  | loneSurrogate => "lone leading surrogate in hex escape"
  | unfinishedEscape => "unexpected end of hex escape"
  | trailingComma => "trailing comma"
  | trailingCharacters => "trailing characters"
  | tooDeep => "recursion limit exceeded"

end SyntaxFault

/-- A fault and the number of bytes up to it. -/
structure SyntaxError where
  fault : SyntaxFault
  column : Nat
  deriving DecidableEq, Repr

/-- A place in a text: the number of bytes before it and the characters behind it. -/
structure Position where
  column : Nat
  rest : List Char
  deriving DecidableEq, Repr

abbrev Reading := Except SyntaxError

namespace Position

def ofText (text : String) : Position :=
  ⟨0, text.toList⟩

/-- The place behind the next character. -/
def next (p : Position) : Position :=
  match p.rest with
  | [] => p
  | x :: rest => ⟨p.column + x.utf8Size, rest⟩

/-- The number of bytes up to the first byte of the next character, and with it. -/
def inNext (p : Position) : Nat :=
  if p.rest.isEmpty then p.column else p.column + 1

def error (p : Position) (fault : SyntaxFault) : SyntaxError :=
  ⟨fault, p.inNext⟩

/-- The place behind a run of characters of some kind. -/
def passFrom (kind : Char → Bool) (column : Nat) : List Char → Position
  | [] => ⟨column, []⟩
  | x :: rest =>
    if kind x then passFrom kind (column + x.utf8Size) rest else ⟨column, x :: rest⟩

/-- The place behind the characters of some kind that come next. -/
def pass (p : Position) (kind : Char → Bool) : Position :=
  passFrom kind p.column p.rest

/-- The characters that may stand between the parts of a text. -/
def isSpace (x : Char) : Bool :=
  x = ' ' || x = '\n' || x = '\t' || x = '\r'

/-- The place behind the spaces that come next. -/
def skipSpaces (p : Position) : Position :=
  p.pass isSpace

def atDigit (p : Position) : Bool :=
  p.rest.head?.any Char.isDigit

/-- The place behind the digits that come next. -/
def skipDigits (p : Position) : Position :=
  p.pass Char.isDigit

end Position

end KitSurface.Json
