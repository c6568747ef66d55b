import KitSurface.Layout.Basic
/-!
Sizes and alignments of layouts. A scalar is aligned to its own size, a union starts every member
at offset zero, and a struct places its members one after the other. Bit-fields are packed into
units of their declared type: a bit-field opens a new unit when its type is not that of the open
unit, or when the unit has too few bits left for it.
-/

namespace KitSurface

/-- The size and the alignment of a type in bytes. -/
structure Extent where
  size : Nat
  align : Nat
  deriving DecidableEq, Repr

/-- The least multiple of `a` that is at least `n`. -/
def roundUp (n a : Nat) : Nat :=
  (n + a - 1) / a * a

/-- What the placement of a member depends on: its extent, or for a bit-field its declared type
and its width. -/
inductive Member where
  | whole (extent : Extent)
  | bits (type : Scalar) (width : Nat)
  deriving DecidableEq, Repr

namespace Scalar

def extent (t : Scalar) : Extent :=
  ⟨t.size, t.size⟩

end Scalar

namespace Member

/-- The extent of a member; that of a bit-field is the extent of a whole unit. -/
def extent : Member → Extent
  | whole e => e
  | bits t _ => t.extent

end Member

/-- The state between two members of a struct: the end of the members so far, the greatest
alignment so far, and the declared type of an open unit with the number of bits it has in use. -/
structure Cursor where
  offset : Nat
  align : Nat
  unit : Option (Scalar × Nat)
  deriving DecidableEq, Repr

namespace Cursor

/-- Before the first member. -/
def start : Cursor :=
  ⟨0, 1, none⟩

/-- Puts a member behind the others at the next multiple of its alignment. -/
def append (c : Cursor) (e : Extent) (unit : Option (Scalar × Nat)) : Cursor :=
  ⟨roundUp c.offset e.align + e.size, max c.align e.align, unit⟩

/-- The number of bits in use in an open unit that takes the bit-field. -/
def room? (c : Cursor) (t : Scalar) (width : Nat) : Option Nat :=
  match c.unit with
  | some (type, used) => if type = t ∧ used + width ≤ t.bits then some used else none
  | none => none

def place (c : Cursor) : Member → Cursor
  | .whole e => c.append e none
  | .bits t width =>
    match c.room? t width with
    | some used => { c with unit := some (t, used + width) }
    | none => c.append t.extent (some (t, width))

/-- The extent of the struct that ends here, with its padding. -/
def close (c : Cursor) : Extent :=
  ⟨roundUp c.offset c.align, c.align⟩

end Cursor

namespace Extent

def ofStruct (members : List Member) : Extent :=
  (members.foldl Cursor.place Cursor.start).close

/-- The extent that covers two others placed at the same offset. -/
def cover (e : Extent) (m : Member) : Extent :=
  ⟨max e.size m.extent.size, max e.align m.extent.align⟩

/-- An extent with the padding that makes its size a multiple of its alignment. -/
def pad (e : Extent) : Extent :=
  ⟨roundUp e.size e.align, e.align⟩

def ofUnion (members : List Member) : Extent :=
  (members.foldl cover ⟨0, 1⟩).pad

/-- The extent of an aggregate with these members. -/
def ofMembers : AggregateKind → List Member → Extent
  | .struct => ofStruct
  | .union => ofUnion

end Extent

mutual

/-- What the placement of a field depends on. -/
def Field.member : Field → Member
  | .scalar _ t => .whole t.extent
  | .bits _ t width => .bits t width
  | .nested _ kind fields => .whole (Extent.ofMembers kind (Field.members fields))

/-- What the placement of the fields of an aggregate depends on. -/
def Field.members : List Field → List Member
  | [] => []
  | field :: fields => field.member :: Field.members fields

end

mutual

/-- Every bit-field of a field has at least one bit and at most as many as its declared type. -/
def Field.widthsFit : Field → Bool
  | .scalar _ _ => true
  | .bits _ t width => 0 < width && width ≤ t.bits
  | .nested _ _ fields => Field.allWidthsFit fields

def Field.allWidthsFit : List Field → Bool
  | [] => true
  | field :: fields => field.widthsFit && Field.allWidthsFit fields

end

namespace Aggregate

def extent (a : Aggregate) : Extent :=
  Extent.ofMembers a.kind (Field.members a.fields)

/-- Every bit-field at every depth fits its declared type. -/
def widthsFit (a : Aggregate) : Bool :=
  Field.allWidthsFit a.fields

end Aggregate

theorem Field.members_eq_map (fields : List Field) :
    Field.members fields = fields.map Field.member := by
  induction fields with
  | nil => rfl
  | cons field fields ih => simp [Field.members, ih]

end KitSurface
