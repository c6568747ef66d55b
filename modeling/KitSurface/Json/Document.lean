import KitSurface.Json.Bracket
import KitSurface.Json.Number
/-!
JSON values as they are written. A value is read with a bound on the number of arrays and objects
that lie inside one another; a value that is only passed over has no such bound.
-/

namespace KitSurface.Json

def readWord (value : Json) : List Char → Position → Reading (Json × Position)
  | [], p => .ok (value, p)
  | letter :: letters, p =>
    match p.rest with
    | [] => .error ⟨.endInValue, p.column⟩
    | x :: _ =>
      if x = letter then readWord value letters p.next
      else .error (p.error .expectedIdentifier)

/-- Reads the string, the number or the word that comes next. -/
def readScalar (p : Position) : Reading (Json × Position) :=
  match p.rest with
  | [] => .error ⟨.endInValue, p.column⟩
  | '"' :: _ => (readString p.next).map fun (s, p) => (.string s, p)
  | 'n' :: _ => readWord .null ['u', 'l', 'l'] p.next
  | 't' :: _ => readWord (.bool true) ['r', 'u', 'e'] p.next
  | 'f' :: _ => readWord (.bool false) ['a', 'l', 's', 'e'] p.next
  | '-' :: _ => readNumber true p.next
  | _ => if p.atDigit then readNumber false p else .error (p.error .expectedValue)

/-- Reads a value in which at most `depth` arrays and objects lie inside one another; `collect`
makes a value of the members of an object, which it gets in the order of the text. -/
def read (collect : List (String × Json) → Json) (depth : Nat) (p : Position) :
    Reading (Json × Position) :=
  match Bracket.next? p.skipSpaces, depth with
  | none, _ => readScalar p.skipSpaces
  | some _, 0 => .error (p.skipSpaces.error .tooDeep)
  | some .array, depth + 1 => do
    let item (items : List Json) (p : Position) : Reading (List Json × Position) := do
      let (value, p) ← read collect depth p
      return (value :: items, p)
    let (items, p) ← walk moreItems item [] p.skipSpaces.next
    return (.array items.reverse, p.next)
  | some .object, depth + 1 => do
    let member (members : List (String × Json)) (p : Position) :
        Reading (List (String × Json) × Position) := do
      let (key, p) ← readKey p
      let (value, p) ← read collect depth (← skipColon p)
      return ((key, value) :: members, p)
    let (members, p) ← walk Bracket.object.more member [] p.skipSpaces.next
    return (collect members.reverse, p.next)

/-- The number of arrays and objects that may lie inside one another in a document. -/
def depthLimit : Nat := 127

/-- The value of a text; `none` for a text that is not JSON. Every bracket is a character of the
text, so that its length bounds the number of brackets inside one another. -/
def parse? (text : String) : Option Json :=
  match read ofMembers text.length (Position.ofText text) with
  | .ok (value, p) => if p.skipSpaces.rest.isEmpty then some value else none
  | .error _ => none

/-- Passes over the string, the number or the word that comes next. -/
def skipScalar (p : Position) : Reading Position :=
  match p.rest with
  | '"' :: _ => skipString p.next
  | '-' :: _ => skipNumber p.next
  | _ => if p.atDigit then skipNumber p else (readScalar p).map (·.2)

/-- Passes over the key of a member. -/
def skipKey (p : Position) : Reading Position :=
  match p.rest with
  | '"' :: _ => skipString p.next
  | [] => .error ⟨.endInObject, p.column⟩
  | _ => .error (p.error .keyNotString)

/-- Passes over a value. Every bracket is a character of the text, so that its characters bound the
number of brackets inside one another. -/
def skipFrom (bound : List Char) (p : Position) : Reading Position :=
  match Bracket.next? p.skipSpaces, bound with
  | none, _ => skipScalar p.skipSpaces
  | some _, [] => .error ⟨.endInValue, p.column⟩
  | some .array, _ :: bound => do
    let item (_ : Unit) (p : Position) : Reading (Unit × Position) :=
      (skipFrom bound p).map fun p => ((), p)
    let (_, p) ← walk Bracket.array.more item () p.skipSpaces.next
    return p.next
  | some .object, _ :: bound => do
    let member (_ : Unit) (p : Position) : Reading (Unit × Position) := do
      let p ← skipKey p
      return ((), ← skipFrom bound (← skipColon p))
    let (_, p) ← walk Bracket.object.more member () p.skipSpaces.next
    return p.next

/-- Passes over the value that comes next. -/
def skip (p : Position) : Reading Position :=
  skipFrom p.rest p

end KitSurface.Json
