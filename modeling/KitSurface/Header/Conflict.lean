import KitSurface.Header.Statement
import KitSurface.Supplement
/-!
Conflicts between the headers of a kit and the supplemental types. A header conflicts with a type
if it defines the tag, or declares the typedef name or the pointer typedef name for another type.
A typedef that aliases the type's own tag declares the same type again and is no conflict.
-/

namespace KitSurface

namespace Header

/-- Some suffix reached over one or more blanks satisfies a condition. -/
def afterBlanks (condition : List Char → Bool) : List Char → Bool
  | [] => false
  | c :: rest => Text.isBlank c && (condition rest || afterBlanks condition rest)

/-- Some suffix reached over any number of blanks satisfies a condition. -/
def afterAnyBlanks (condition : List Char → Bool) (text : List Char) : Bool :=
  condition text || afterBlanks condition text

/-- A text begins with a word, and what follows the word satisfies a condition. -/
def startsWith (word : List Char) (condition : List Char → Bool) (text : List Char) : Bool :=
  (word.isPrefixOf? text).any condition

/-- A text begins with the definition of a tag: the keyword, blanks, the tag and an opening
brace. -/
def definesHere (keyword tag : List Char) : List Char → Bool :=
  startsWith keyword (afterBlanks (startsWith tag
    (afterAnyBlanks fun rest => rest.head? == some '\x7b')))

/-- A text contains the definition of a tag, with no word character before its keyword. -/
def definesTag (keyword tag : List Char) (before : Option Char) : List Char → Bool
  | [] => false
  | c :: rest =>
    (Text.isWordEdge before (some c) && definesHere keyword tag (c :: rest)) ||
      definesTag keyword tag (some c) rest

/-- The text of an alias names the tag itself: the keyword, blanks, and the tag up to the edge of
a word. -/
def aliasesTag (keyword tag : List Char) : List Char → Bool :=
  startsWith keyword (afterBlanks (startsWith tag fun rest =>
    Text.isWordEdge (tag.getLast?.or (some ' ')) rest.head?))

end Header

/-- A type that a header defines too, with the name that is defined twice. -/
structure Conflict where
  type : Supplement
  name : String
  deriving Repr

namespace Supplement

open Header

/-- The name of the type that a declarator defines. -/
def nameDeclared? (t : Supplement) (d : Declarator) : Option String :=
  if !d.isPointer && d.name == t.typedefName.toList then some t.typedefName
  else if d.isPointer && d.name == t.pointerName.toList then some t.pointerName
  else none

/-- The declarators of a statement, except for one that aliases the type's own tag. -/
def foreignDeclarators (t : Supplement) : Statement → List Declarator
  | .afterBody text => Declarator.ofList text
  | .ofTypedef text =>
    if aliasesTag t.layout.kind.keyword.toList t.tag.toList text then []
    else Declarator.ofList text

/-- The name of the type that the statements of a source without comments define. -/
def typedefIn? (t : Supplement) (source : List Char) : Option String :=
  ((Statement.ofSource source).flatMap t.foreignDeclarators).findSome? t.nameDeclared?

/-- The name of the type that a source without comments defines: the tag if it is defined
anywhere, and otherwise the first typedef name in text order. -/
def definitionInCode? (t : Supplement) (source : List Char) : Option String :=
  if definesTag t.layout.kind.keyword.toList t.tag.toList none source then some t.tag
  else t.typedefIn? source

/-- The name of the type that a header defines outside its comments. -/
def definitionIn? (t : Supplement) (header : String) : Option String :=
  t.definitionInCode? (stripComments header.toList)

def conflicts (registry : List Supplement) (header : String) : List Conflict :=
  registry.filterMap fun t => (t.definitionIn? header).map fun name => ⟨t, name⟩

end Supplement

end KitSurface
