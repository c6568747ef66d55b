import KitSurface.Text.Word
/-!
Comments of C source, and statements that can define a typedef name. A block comment runs from `/*` to
the next `*/`, which does not share its star, and a line comment runs from `//` to the end of the line;
each is replaced by one space. An opener without a closer is text. A statement is what stands between
the body of an aggregate and the next semicolon, or what stands between the word `typedef` and the
next semicolon, in both cases without a brace in between. Each ends in a list of declarators.
-/

namespace KitSurface.Header

/-! ## Comments -/

/-- The text contains the end of a block comment. -/
def closesBlock : List Char → Bool
  | [] => false
  | '*' :: '/' :: _ => true
  | _ :: rest => closesBlock rest

/-- Where a scan for comments stands. -/
inductive Place where
  | code
  | block
  | line
  deriving DecidableEq, Repr

/-- A text without its comments, read from some place on. -/
def stripFrom : Place → List Char → List Char
  | _, [] => []
  | .code, '/' :: '*' :: rest =>
    if closesBlock rest then ' ' :: stripFrom .block rest
    else '/' :: '*' :: stripFrom .code rest
  | .code, '/' :: '/' :: rest => ' ' :: stripFrom .line rest
  | .code, c :: rest => c :: stripFrom .code rest
  | .block, '*' :: '/' :: rest => stripFrom .code rest
  | .block, _ :: rest => stripFrom .block rest
  | .line, '\n' :: rest => '\n' :: stripFrom .code rest
  | .line, _ :: rest => stripFrom .line rest

/-- A text with every comment replaced by one space. -/
def stripComments (source : List Char) : List Char :=
  stripFrom .code source

/-! ## Statements -/

/-- The part of a statement in which declarators are looked for. -/
inductive Statement where
  /-- The text between a closing brace and a semicolon. -/
  | afterBody (text : List Char)
  /-- The text of a typedef without a body. -/
  | ofTypedef (text : List Char)
  deriving DecidableEq, Repr

/-- A declarator: a name, and whether a star stands before it. -/
structure Declarator where
  name : List Char
  isPointer : Bool
  deriving DecidableEq, Repr

namespace Statement

/-- A statement ends at a semicolon, and no brace stands in it. -/
def isPlain (c : Char) : Bool :=
  c != ';' && c != '\x7b' && c != '\x7d'

/-- The characters before the semicolon that ends them. -/
def upToSemicolon? (text : List Char) : Option (List Char) :=
  match text.dropWhile isPlain with
  | ';' :: _ => some (text.takeWhile isPlain)
  | _ => none

def typedefWord : List Char :=
  "typedef".toList

/-- The statement that begins at the front of a text, given the character before it. -/
def at? (before : Option Char) (text : List Char) : Option Statement :=
  match text with
  | '\x7d' :: rest => (upToSemicolon? rest).map afterBody
  | _ =>
    if before.any Text.isWord then none
    else match typedefWord.isPrefixOf? text with
      | some (c :: rest) =>
        if Text.isBlank c then (upToSemicolon? (Text.dropBlanks rest)).map ofTypedef else none
      | _ => none

/-- The statements of a text in order. Inside a statement the scan looks for the semicolon only,
and outside it looks for the next beginning. -/
def scan (inside : Bool) (before : Option Char) : List Char → List Statement
  | [] => []
  | c :: rest =>
    if inside then scan (c != ';') (some c) rest
    else match at? before (c :: rest) with
      | some statement => statement :: scan true (some c) rest
      | none => scan false (some c) rest

/-- The statements of a text without comments. -/
def ofSource (source : List Char) : List Statement :=
  scan false none source

end Statement

namespace Declarator

/-- The declarator at the end of a text: its last word, and whether the last character before it
that is not blank is a star. -/
def ofText? (text : List Char) : Option Declarator :=
  let reversed := Text.dropBlanks text.reverse
  let name := (reversed.takeWhile Text.isWord).reverse
  if name.isEmpty then none
  else some ⟨name, (Text.dropBlanks (reversed.dropWhile Text.isWord)).head? == some '*'⟩

def ofList (text : List Char) : List Declarator :=
  (text.splitOn ',').filterMap ofText?

end Declarator

end KitSurface.Header
