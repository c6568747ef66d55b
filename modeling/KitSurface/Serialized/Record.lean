import KitSurface.Json.Basic
import KitSurface.Version
/-!
Records in JSON, and why a value does not stand for one. A record is written as an object with a member
for each field, or as an array with the fields in the order of their declaration. Reading folds the
members or items into a draft, from the first to the last; a field that stays empty is noticed when the
draft is finished.
-/

namespace KitSurface

/-! ## Errors -/

/-- Why a JSON value does not stand for a value of some type. -/
inductive DecodeError where
  | invalidType (found : Json) (expected : String)
  | invalidValue (found : Json) (expected : String)
  | unknownField (name : String) (fields : List String)
  | unknownVariant (name : String) (variants : List String)
  | missingField (name : String)
  /-- A member of a record that was there before. -/
  | duplicateField (name : String)
  | invalidLength (length : Nat) (expected : String)
  /-- The value is of none of the forms that a type has. -/
  | noVariant (type : String)
  | version (error : VersionError)
  /-- The value breaks a rule of its own. -/
  | refused (reason : String)
  deriving Repr

namespace DecodeError

def alternatives (names : List String) : String :=
  let quoted := names.map fun name => "`" ++ name ++ "`"
  match quoted with
  | [a] => "expected " ++ a
  | [a, b] => "expected " ++ a ++ " or " ++ b
  | _ => "expected one of " ++ ", ".intercalate quoted

def message : DecodeError → String
  | invalidType found expected =>
    "invalid type: " ++ found.description ++ ", expected " ++ expected
  | invalidValue found expected =>
    "invalid value: " ++ found.description ++ ", expected " ++ expected
  | unknownField name fields => "unknown field `" ++ name ++ "`, " ++ alternatives fields
  | unknownVariant name variants => "unknown variant `" ++ name ++ "`, " ++ alternatives variants
  | missingField name => "missing field `" ++ name ++ "`"
  | duplicateField name => "duplicate field `" ++ name ++ "`"
  | invalidLength length expected =>
    "invalid length " ++ Nat.repr length ++ ", expected " ++ expected
  | noVariant type => "data did not match any variant of untagged enum " ++ type
  | version error => error.message
  | refused reason => reason

end DecodeError

/-- A value that was read, or the reason why there is none. -/
abbrev Decoded (α : Type) := Except DecodeError α

/-! ## Records -/

/-- A field of a record: its key, and how a value of it goes into a draft. -/
structure RecordField (δ : Type) where
  key : String
  read : Json → δ → Decoded δ

/-- A field whose value is read by itself and then put into the draft. -/
def RecordField.kept {δ β : Type} (key : String) (read : Json → Decoded β) (put : β → δ → δ) :
    RecordField δ where
  key := key
  read value draft := (read value).map fun b => put b draft

/-- The form of a record of type `α`, which is read by way of a draft of type `δ`. -/
structure RecordForm (δ α : Type) where
  /-- The name of the record in messages. -/
  title : String
  /-- The fields in the order of their declaration. -/
  fields : List (RecordField δ)
  /-- The draft before the first field. -/
  blank : δ
  /-- Members that are no field are passed over. -/
  ignoresUnknown : Bool
  /-- Fields behind the last item of an array stay as they are in the draft. -/
  allowsShort : Bool
  /-- Turns a draft into a record, unless a field is missing. -/
  finish : δ → Decoded α

/-- The alternative that an array has too many items for. -/
inductive Surplus where
  /-- The array is a value by itself. -/
  | plain
  /-- The array is what follows the tag of a variant. -/
  | afterTag
  deriving DecidableEq, Repr

def elementCount (n : Nat) : String :=
  Nat.repr n ++ (if n = 1 then " element" else " elements")

namespace RecordForm

variable {δ α : Type}

def field? (form : RecordForm δ α) (key : String) : Option (RecordField δ) :=
  form.fields.find? fun f => f.key = key

def readMember (form : RecordForm δ α) (draft : δ) (member : String × Json) : Decoded δ :=
  match form.field? member.1 with
  | some field => field.read member.2 draft
  | none =>
    if form.ignoresUnknown then .ok draft
    else .error (.unknownField member.1 (form.fields.map (·.key)))

/-- Reads a record from the members of an object, in their order. -/
def ofMembers (form : RecordForm δ α) (members : List (String × Json)) : Decoded α := do
  form.finish (← members.foldlM form.readMember form.blank)

/-- The error of an array with too many items. -/
def surplusError (form : RecordForm δ α) (length : Nat) : Surplus → DecodeError
  | .plain => .invalidLength length "fewer elements in array"
  | .afterTag => .invalidLength length (elementCount form.fields.length ++ " in sequence")

/-- Reads items into a draft, one for each field in turn; `length` is the length of the array. -/
def readItems (form : RecordForm δ α) (surplus : Surplus) (length : Nat) :
    List (RecordField δ) → List Json → δ → Decoded δ
  | [], [], draft => .ok draft
  | [], _ :: _, _ => .error (form.surplusError length surplus)
  | field :: fields, item :: items, draft => do
    form.readItems surplus length fields items (← field.read item draft)
  | _ :: _, [], draft =>
    if form.allowsShort then .ok draft
    else .error (.invalidLength length
      ("struct " ++ form.title ++ " with " ++ elementCount form.fields.length))

def ofItems (form : RecordForm δ α) (surplus : Surplus) (items : List Json) : Decoded α := do
  form.finish (← form.readItems surplus items.length form.fields items form.blank)

def ofJson (form : RecordForm δ α) : Json → Decoded α
  | .object members => form.ofMembers members
  | .array items => form.ofItems .plain items
  | other => .error (.invalidType other ("struct " ++ form.title))

end RecordForm

/-- The value of a field that a draft must have. -/
def required {α : Type} (key : String) : Option α → Decoded α
  | some value => .ok value
  | none => .error (.missingField key)

namespace Json

def toBool : Json → Decoded Bool
  | bool b => .ok b
  | other => .error (.invalidType other "a boolean")

/-- Reads a text; `expected` is what messages call it. -/
def toText (expected : String) : Json → Decoded String
  | string s => .ok s
  | other => .error (.invalidType other expected)

def toByte : Json → Decoded UInt8
  | integer n =>
    if 0 ≤ n ∧ n < 256 then .ok (UInt8.ofNat n.toNat) else .error (.invalidValue (.integer n) "u8")
  | other => .error (.invalidType other "u8")

def toOption {α : Type} (read : Json → Decoded α) : Json → Decoded (Option α)
  | null => .ok none
  | other => (read other).map some

def variant {α : Type} (names : α → String) (variants : List α) (name : String) : Decoded α :=
  match variants.find? fun v => names v = name with
  | some v => .ok v
  | none => .error (.unknownVariant name (variants.map names))

/-- Reads one of several plain variants: its name, or an object whose only member has the name as
its key and the value null. -/
def toVariant {α : Type} (names : α → String) (variants : List α) : Json → Decoded α
  | string name => variant names variants name
  | object [(name, value)] => do
    let v ← variant names variants name
    match value with
    | null => return v
    | other => throw (.invalidType other "unit")
  | object members => .error (.invalidValue (.object members) "map with a single key")
  | other => .error (.invalidType other "string or map")

end Json

end KitSurface
