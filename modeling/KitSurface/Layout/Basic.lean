/-!
Layouts of C aggregates, as the supplemental types write them down: structs and unions of scalars,
bit-fields and nested aggregates, with their C text. `Layout/Measure` gives their sizes. As text there
is one member a line, two columns deeper than the braces around it; a scalar or a bit-field without a
name cannot be written, and neither can what contains it.
-/

namespace KitSurface

/-! ## Aggregates -/

/-- The scalar types of a layout, under a data model in which `long` has 32 bits. -/
inductive Scalar where
  | unsignedChar
  | unsignedShort
  | unsignedLong
  | unsignedInt64
  deriving DecidableEq, Repr, Inhabited

namespace Scalar

def all : List Scalar :=
  [unsignedChar, unsignedShort, unsignedLong, unsignedInt64]

def spelling : Scalar → String
  | unsignedChar => "unsigned char"
  | unsignedShort => "unsigned short"
  | unsignedLong => "unsigned long"
  | unsignedInt64 => "unsigned __int64"

/-- The size of a scalar in bytes, which is its alignment too. -/
def size : Scalar → Nat
  | unsignedChar => 1
  | unsignedShort => 2
  | unsignedLong => 4
  | unsignedInt64 => 8

def bits (t : Scalar) : Nat :=
  8 * t.size

def ofSpelling? (text : String) : Option Scalar :=
  all.find? fun t => t.spelling = text

theorem size_pos (t : Scalar) : 0 < t.size := by
  cases t <;> decide

end Scalar

/-- The members of a struct follow each other, those of a union overlap. -/
inductive AggregateKind where
  | struct
  | union
  deriving DecidableEq, Repr, Inhabited

namespace AggregateKind

def keyword : AggregateKind → String
  | struct => "struct"
  | union => "union"

end AggregateKind

/-- A member of an aggregate. Only a nested aggregate can do without a name in C. -/
inductive Field where
  | scalar (name : Option String) (type : Scalar)
  | bits (name : Option String) (type : Scalar) (width : Nat)
  | nested (name : Option String) (kind : AggregateKind) (fields : List Field)
  deriving Repr, Inhabited

/-- The body of a struct or union. -/
structure Aggregate where
  kind : AggregateKind
  fields : List Field
  deriving Repr

namespace Field

def name? : Field → Option String
  | scalar name _ | bits name _ _ | nested name _ _ => name

end Field

/-! ## C text -/

def indentation (columns : Nat) : String :=
  String.ofList (List.replicate columns ' ')

/-- The braces around members that are already written. -/
def braced (columns : Nat) (members : String) : String :=
  indentation columns ++ "\x7b\n" ++ members ++ indentation columns ++ "\x7d"

mutual

def Field.declaration (columns : Nat) : Field → Option String
  | .scalar name t => do
    return indentation columns ++ t.spelling ++ " " ++ (← name) ++ ";\n"
  | .bits name t width => do
    return indentation columns ++ t.spelling ++ " " ++ (← name) ++ " : " ++ Nat.repr width ++ ";\n"
  | .nested name kind fields => do
    let members ← Field.declarations (columns + 2) fields
    return indentation columns ++ kind.keyword ++ "\n" ++ braced columns members ++
      (match name with
        | some name => " " ++ name
        | none => "") ++ ";\n"

def Field.declarations (columns : Nat) : List Field → Option String
  | [] => some ""
  | field :: fields => do
    return (← field.declaration columns) ++ (← Field.declarations columns fields)

end

namespace Aggregate

/-- The body of an aggregate that is declared at the first column. -/
def body (a : Aggregate) : Option String :=
  (Field.declarations 2 a.fields).map (braced 0)

end Aggregate

end KitSurface
