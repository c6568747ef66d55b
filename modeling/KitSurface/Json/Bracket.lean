import KitSurface.Json.Quoted
/-!
Arrays and objects of JSON texts, as far as they are alike: a bracket, elements with commas between
them, and a closing bracket. A comma must be followed by another element.
-/

namespace KitSurface.Json

inductive Bracket where
  | array
  | object
  deriving DecidableEq, Repr

namespace Bracket

def next? (p : Position) : Option Bracket :=
  match p.rest with
  | '[' :: _ => some array
  | '\x7b' :: _ => some object
  | _ => none

def closing : Bracket → Char
  | array => ']'
  | object => '\x7d'

def unfinished : Bracket → SyntaxFault
  | array => .endInArray
  | object => .endInObject

/-- The fault of an element that is followed by neither a comma nor the closing bracket. -/
def unseparated : Bracket → SyntaxFault
  | array => .expectedCommaOrBracket
  | object => .expectedCommaOrBrace

/-- Whether there is one more element, and the place of that element or of the closing bracket;
`first` says that there was no element before. -/
def more (b : Bracket) (first : Bool) (p : Position) : Reading (Bool × Position) :=
  let p := p.skipSpaces
  match p.rest with
  | [] => .error ⟨b.unfinished, p.column⟩
  | x :: _ =>
    if x = b.closing then .ok (false, p)
    else if first then .ok (true, p)
    else if x = ',' then .ok (true, p.next.skipSpaces)
    else .error (p.error b.unseparated)

/-- Where the attempt to close a bracket gets to, and the fault there if it is not closed. A comma
is passed over in an array, so that the fault is that of what follows it. -/
def close (b : Bracket) (p : Position) : Position × Option SyntaxFault :=
  let p := p.skipSpaces
  match p.rest with
  | [] => (p, some b.unfinished)
  | x :: _ =>
    if x = b.closing then (p.next, none)
    else if x = ',' then
      match b with
      | object => (p, some .trailingComma)
      | array =>
        let after := p.next.skipSpaces
        (after, some (if after.rest.head? = some ']' then .trailingComma else .trailingCharacters))
    else (p, some .trailingCharacters)

end Bracket

/-- Whether an array has one more item. -/
def moreItems (first : Bool) (p : Position) : Reading (Bool × Position) := do
  let (more, p) ← Bracket.array.more first p
  if more && p.rest.head? = some ']' then throw (p.error .trailingComma)
  return (more, p)

def readKey (p : Position) : Reading (String × Position) :=
  match p.rest with
  | '"' :: _ => readString p.next
  | '\x7d' :: _ => .error (p.error .trailingComma)
  | [] => .error ⟨.endInValue, p.column⟩
  | _ => .error (p.error .keyNotString)

/-- The place of the key of an object that must have a member, from behind the bracket. -/
def onlyKey (p : Position) : Reading Position :=
  let p := p.skipSpaces
  match p.rest with
  | '"' :: _ => .ok p
  | '\x7d' :: _ => .error (p.error .expectedValue)
  | [] => .error ⟨.endInObject, p.column⟩
  | _ => .error (p.error .keyNotString)

/-- Passes over the colon between a key and its value. -/
def skipColon (p : Position) : Reading Position :=
  let p := p.skipSpaces
  match p.rest with
  | ':' :: _ => .ok p.next
  | [] => .error ⟨.endInObject, p.column⟩
  | _ => .error (p.error .expectedColon)

/-- Goes through the elements behind a bracket up to the closing one: `more` says whether there is
another element, and `step` takes it. An element takes a character of the text or more, so that its
characters bound the number of elements. -/
def walkFrom {σ ε : Type} (more : Bool → Position → Except ε (Bool × Position))
    (step : σ → Position → Except ε (σ × Position)) (first : Bool) (state : σ) :
    List Char → Position → Except ε (σ × Position)
  | [], p => (more first p).map fun (_, p) => (state, p)
  | _ :: bound, p =>
    match more first p with
    | .error e => .error e
    | .ok (false, p) => .ok (state, p)
    | .ok (true, p) =>
      match step state p with
      | .error e => .error e
      | .ok (state, p) => walkFrom more step false state bound p

/-- Goes through the elements behind a bracket, beginning with some state. -/
def walk {σ ε : Type} (more : Bool → Position → Except ε (Bool × Position))
    (step : σ → Position → Except ε (σ × Position)) (state : σ) (p : Position) :
    Except ε (σ × Position) :=
  walkFrom more step true state p.rest p

end KitSurface.Json
