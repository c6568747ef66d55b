import KitSurface.Json.Document
import KitSurface.Serialized.Record
/-!
Readers of documents. A document is read from its text by what it must hold, in the order in which
it is written, so that the first fault is reported, whether it is one of form or of content. Most
faults are reported at the place where they stand. A value that is read and then breaks a rule, or
a record with a missing field, is reported where the array or object around it ends.
-/

namespace KitSurface

open Json (Bracket Position Reading)

/-- What can be wrong with a document. -/
inductive DocumentFault where
  | form (fault : Json.SyntaxFault)
  | content (error : DecodeError)
  deriving Repr

/-- A fault of a document with the number of bytes up to it. -/
structure DocumentError where
  fault : DocumentFault
  column : Nat
  deriving Repr

namespace DocumentError

/-- A fault with its place; a document is one line. -/
def message (e : DocumentError) : String :=
  (match e.fault with
    | .form fault => fault.message
    | .content error => error.message) ++ " at line 1 column " ++ Nat.repr e.column

end DocumentError

/-- How reading is broken off. -/
inductive Stop where
  /-- The fault has its place. -/
  | placed (error : DocumentError)
  /-- The fault gets its place where the array or object around it ends, as seen from here. -/
  | pending (error : DecodeError) (place : Position)
  deriving Repr

namespace Stop

def form (e : Json.SyntaxError) : Stop :=
  placed ⟨.form e.fault, e.column⟩

def content (e : DecodeError) (column : Nat) : Stop :=
  placed ⟨.content e, column⟩

/-- The error of a fault that nothing is around any more. -/
def error : Stop → DocumentError
  | placed e => e
  | pending e place => ⟨.content e, place.column⟩

def lift {α : Type} (reading : Reading α) : Except Stop α :=
  reading.mapError form

end Stop

/-- A way to read a value from a place of a text, given how many arrays and objects may lie inside
one another from there on. -/
structure Reader (α : Type) where
  read : Nat → Position → Except Stop (α × Position)

namespace Reader

variable {α β : Type}

def map (f : α → β) (r : Reader α) : Reader β where
  read depth p := (r.read depth p).map fun (a, p) => (f a, p)

/-- A reader that holds the value to a rule once it is read. -/
def checked (r : Reader α) (rule : α → Decoded β) : Reader β where
  read depth p := do
    let (a, p) ← r.read depth p
    match rule a with
    | .ok b => return (b, p)
    | .error e => throw (.pending e p)

def emptyOf : Bracket → Json
  | .array => .array []
  | .object => .object []

/-- Reads a value that is neither an array nor an object. `take` decides on the value; of an array
or object it sees nothing but which of the two it is, and refuses it. -/
def scalar (take : Json → Decoded α) : Reader α where
  read _ p := do
    let p := p.skipSpaces
    let (value, p) ← match Bracket.next? p with
      | some b => pure (emptyOf b, p)
      | none => Stop.lift (Json.readScalar p)
    match take value with
    | .ok a => return (a, p)
    | .error e => throw (.content e p.column)

/-- Reads a text that messages call by some name, and takes it or refuses it. -/
def textThat (expected : String) (take : String → Decoded α) : Reader α :=
  scalar fun value => do take (← value.toText expected)

def text : Reader String :=
  textThat "a string" .ok

def path : Reader String :=
  textThat "a UTF-8 path string" .ok

def flag : Reader Bool :=
  scalar Json.toBool

def count : Reader Nat :=
  scalar fun
    | .integer n => if 0 ≤ n then .ok n.toNat else .error (.invalidValue (.integer n) "usize")
    | other => .error (.invalidType other "usize")

def any : Reader Json where
  read depth p := Stop.lift (Json.read .ofMembers depth p)

def optional (r : Reader α) : Reader (Option α) where
  read depth p :=
    match p.skipSpaces.rest with
    | 'n' :: _ => (Stop.lift (Json.readScalar p.skipSpaces)).map fun (_, p) => (none, p)
    | _ => (r.map some).read depth p

/-- Reads what a bracket holds, and the closing bracket. A fault that has no place yet is reported
where the attempt to close the bracket gets to. -/
def enclosed (b : Bracket) (contents : Reader α) : Reader α where
  read
    | 0, p => .error (.form (p.error .tooDeep))
    | depth + 1, p =>
      match contents.read depth p.next with
      | .ok (a, p) =>
        match b.close p with
        | (p, none) => .ok (a, p)
        | (p, some fault) => .error (.form (p.error fault))
      | .error (.pending e p) => .error (.content e (b.close p).1.column)
      | .error (.placed e) => .error (.placed e)

/-- Reads an array or object by what it may hold; `expected` is what messages call it. -/
def bracketed (expected : String) (contents? : Bracket → Option (Reader α)) : Reader α where
  read depth p :=
    match (Bracket.next? p.skipSpaces).bind fun b => (contents? b).map (enclosed b) with
    | some r => r.read depth p.skipSpaces
    | none => (scalar fun found => .error (.invalidType found expected)).read depth p

/-- Whether an array has one more item. -/
def moreItems (first : Bool) (p : Position) : Except Stop (Bool × Position) :=
  Stop.lift (Json.moreItems first p)

def moreMembers (first : Bool) (p : Position) : Except Stop (Bool × Position) :=
  Stop.lift (Bracket.object.more first p)

def list (item : Reader α) : Reader (List α) :=
  let items : Reader (List α) := {
    read := fun depth p => do
      let (found, p) ← Json.walk moreItems (fun found p => do
        let (a, p) ← item.read depth p
        return (a :: found, p)) [] p
      return (found.reverse, p) }
  bracketed "a sequence" fun
    | .array => some items
    | .object => none

/-- Reads an object by a reader of the values of its members. -/
def members (value : Reader α) : Reader (List (String × α)) :=
  let all : Reader (List (String × α)) := {
    read := fun depth p => do
      let (found, p) ← Json.walk moreMembers (fun found p => do
        let (key, p) ← Stop.lift (Json.readKey p)
        let (a, p) ← value.read depth (← Stop.lift (Json.skipColon p))
        return ((key, a) :: found, p)) [] p
      return (found.reverse, p) }
  bracketed "a map" fun
    | .object => some all
    | .array => none

/-- Reads one of several plain variants: its name, or an object whose only member has the name as
its key and the value null. `take` takes a name or refuses it. -/
def variant (take : String → Decoded α) : Reader α where
  read depth p := do
    let p := p.skipSpaces
    let name := textThat "variant identifier" take
    match Bracket.next? p, depth with
    | some .object, 0 => throw (.form (p.error .tooDeep))
    | some .object, depth + 1 =>
      let (a, p) ← name.read depth (← Stop.lift (Json.onlyKey p.next))
      let p ← Stop.lift (Json.skipColon p)
      let (_, p) ← (scalar fun
        | .null => .ok ()
        | found => .error (.invalidType found "unit")).read depth p
      let p := p.skipSpaces
      match p.rest with
      | '\x7d' :: _ => return (a, p.next)
      | [] => throw (.form ⟨.endInObject, p.column⟩)
      | _ => throw (.form ⟨.expectedValue, p.column⟩)
    | _, _ =>
      match p.rest with
      | '"' :: _ => name.read depth p
      | [] => throw (.form ⟨.endInValue, p.column⟩)
      | _ => throw (.form (p.error .expectedValue))

/-- Reads a text, or the name of a plain variant in the form of an object. A value of another form
is refused under the name of the type. -/
def textOrVariant (type : String) (names : List String) : Reader String :=
  let form : Reader Json := { read := fun depth p => Stop.lift (Json.read .object depth p) }
  form.checked fun
    | .string s => .ok s
    | .object [(name, .null)] => if name ∈ names then .ok name else .error (.noVariant type)
    | _ => .error (.noVariant type)

def parse (r : Reader α) (text : String) : Except DocumentError α := do
  let (a, p) ← (r.read Json.depthLimit (Position.ofText text)).mapError Stop.error
  let p := p.skipSpaces
  if p.rest.isEmpty then return a else throw ⟨.form .trailingCharacters, p.inNext⟩

end Reader

/-- Where a field of a record may be absent. -/
inductive Presence where
  /-- The field must be there. -/
  | required
  /-- An object may lack the field, but an array may not. -/
  | nullable
  /-- The field may be absent. -/
  | defaulted
  deriving DecidableEq, Repr

/-- A field of a record in a document: how its value is read, and what becomes of the record. -/
structure DocumentField (δ : Type) where
  key : String
  presence : Presence
  value : Reader (δ → δ)

namespace DocumentField

variable {δ : Type}

/-- A field that must have its form but is not kept. -/
def unused {α : Type} (key : String) (presence : Presence) (r : Reader α) : DocumentField δ :=
  ⟨key, presence, r.map fun _ d => d⟩

def kept {α : Type} (key : String) (presence : Presence) (r : Reader α) (put : α → δ → δ) :
    DocumentField δ :=
  ⟨key, presence, r.map put⟩

/-- Reads one member of an object into a record, whose keys so far are known; a member that is no
field is passed over. -/
def readMember (fields : List (DocumentField δ)) (depth : Nat) (state : δ × List String)
    (p : Position) : Except Stop ((δ × List String) × Position) := do
  let (key, p) ← Stop.lift (Json.readKey p)
  match fields.find? fun f => f.key = key with
  | none =>
    let p ← Stop.lift (Json.skipColon p)
    return (state, ← Stop.lift (Json.skip p))
  | some field =>
    if key ∈ state.2 then throw (.pending (.duplicateField key) p)
    let (put, p) ← field.value.read depth (← Stop.lift (Json.skipColon p))
    return ((put state.1, key :: state.2), p)

/-- Reads the members of an object into a record. -/
def ofMembers (fields : List (DocumentField δ)) (blank : δ) : Reader δ where
  read depth p := do
    let ((d, keys), p) ← Json.walk Reader.moreMembers (readMember fields depth) (blank, []) p
    match fields.find? fun f => f.presence = .required && f.key ∉ keys with
    | some f => throw (.pending (.missingField f.key) p)
    | none => return (d, p)

/-- Reads items into a record, one for each field in turn; `length` is the number of fields before
these, and `expected` what messages call the array. -/
def readItems (depth : Nat) (expected : String) :
    List (DocumentField δ) → Nat → δ → Position → Except Stop (δ × Position)
  | [], _, d, p => .ok (d, p)
  | field :: fields, length, d, p => do
    match ← Reader.moreItems (length == 0) p with
    | (true, p) =>
      let (put, p) ← field.value.read depth p
      readItems depth expected fields (length + 1) (put d) p
    | (false, p) =>
      if field.presence = .defaulted then readItems depth expected fields (length + 1) d p
      else throw (.pending (.invalidLength length expected) p)

end DocumentField

namespace Reader

/-- Reads a record: an object with its fields as members, or an array of their values. -/
def record {δ : Type} (title : String) (fields : List (DocumentField δ)) (blank : δ) : Reader δ :=
  let name := "struct " ++ title
  let expected := name ++ " with " ++ elementCount fields.length
  let items : Reader δ := {
    read := fun depth => DocumentField.readItems depth expected fields 0 blank }
  bracketed name fun
    | .object => some (DocumentField.ofMembers fields blank)
    | .array => some items

end Reader

end KitSurface
