import KitSurface.Context
import KitSurface.Layout.Basic
import KitSurface.Layout.Measure
/-!
Supplemental types: native types that the headers of the kit only forward declare, written down
with an explicit layout. Main statements: the two types that the library knows can be written
(`isSome_declaration_of_mem_known`) and have the size that the processor gives them
(`isConsistent_of_mem_known`).
-/

namespace KitSurface

/-- A supplemental type with the three names that it defines, the reason why it is needed, the
contexts it is part of, and the size that its layout must have. -/
structure Supplement where
  tag : String
  typedefName : String
  pointerName : String
  reason : String
  inclusion : Inclusion
  expectedSize : Nat
  layout : Aggregate
  deriving Repr

/-- A supplemental type cannot be written because a scalar or bit-field of it has no name. -/
inductive DeclarationError where
  | unnamedMember
  deriving DecidableEq, Repr

namespace DeclarationError

def message : DeclarationError → String
  | unnamedMember =>
    "internal error: entered unreachable code: scalar and bit-field members are always named"

end DeclarationError

namespace Supplement

/-- The names that a type defines: its tag, its typedef and its pointer typedef. -/
def names (t : Supplement) : List String :=
  [t.tag, t.typedefName, t.pointerName]

/-- The extent of the layout of a type. -/
def extent (t : Supplement) : Extent :=
  t.layout.extent

/-- The bit-fields fit, and the layout has the expected size. -/
def isConsistent (t : Supplement) : Bool :=
  t.layout.widthsFit && t.extent.size == t.expectedSize

/-- The typedef of a type in C. -/
def declaration (t : Supplement) : Option String :=
  t.layout.body.map fun body =>
    "typedef " ++ t.layout.kind.keyword ++ " " ++ t.tag ++ "\n" ++ body ++ " " ++
      t.typedefName ++ ", *" ++ t.pointerName ++ ";\n"

/-- The typedef of a type, or the reason why it has none. -/
def render (t : Supplement) : Except DeclarationError String :=
  match t.declaration with
  | some text => .ok text
  | none => .error .unnamedMember

/-- The descriptor of a segment in a 64-bit descriptor table. -/
def segmentDescriptor : Supplement where
  tag := "_KGDTENTRY64"
  typedefName := "KGDTENTRY64"
  pointerName := "PKGDTENTRY64"
  reason := "ntddk.h only forward declares this union (typedef union _KGDTENTRY64 " ++
    "*PKGDTENTRY64), so no definition reaches the generator"
  inclusion := .outsideUmdf
  expectedSize := 16
  layout := ⟨.union,
    [.nested none .struct
      [.scalar (some "LimitLow") .unsignedShort,
       .scalar (some "BaseLow") .unsignedShort,
       .nested none .union
        [.nested (some "Bytes") .struct
          [.scalar (some "BaseMiddle") .unsignedChar,
           .scalar (some "Flags1") .unsignedChar,
           .scalar (some "Flags2") .unsignedChar,
           .scalar (some "BaseHigh") .unsignedChar],
         .nested (some "Bits") .struct
          [.bits (some "BaseMiddle") .unsignedLong 8,
           .bits (some "Type") .unsignedLong 5,
           .bits (some "Dpl") .unsignedLong 2,
           .bits (some "Present") .unsignedLong 1,
           .bits (some "LimitHigh") .unsignedLong 4,
           .bits (some "System") .unsignedLong 1,
           .bits (some "LongMode") .unsignedLong 1,
           .bits (some "DefaultBig") .unsignedLong 1,
           .bits (some "Granularity") .unsignedLong 1,
           .bits (some "BaseHigh") .unsignedLong 8]],
       .scalar (some "BaseUpper") .unsignedLong,
       .scalar (some "MustBeZero") .unsignedLong],
     .scalar (some "Alignment") .unsignedInt64]⟩

/-- The descriptor of an interrupt gate in a 64-bit descriptor table. -/
def interruptDescriptor : Supplement where
  tag := "_KIDTENTRY64"
  typedefName := "KIDTENTRY64"
  pointerName := "PKIDTENTRY64"
  reason := "ntddk.h only forward declares this union (typedef union _KIDTENTRY64 " ++
    "*PKIDTENTRY64), so no definition reaches the generator"
  inclusion := .outsideUmdf
  expectedSize := 16
  layout := ⟨.union,
    [.nested none .struct
      [.scalar (some "OffsetLow") .unsignedShort,
       .scalar (some "Selector") .unsignedShort,
       .bits (some "IstIndex") .unsignedShort 3,
       .bits (some "Reserved0") .unsignedShort 5,
       .bits (some "Type") .unsignedShort 5,
       .bits (some "Dpl") .unsignedShort 2,
       .bits (some "Present") .unsignedShort 1,
       .scalar (some "OffsetMiddle") .unsignedShort,
       .scalar (some "OffsetHigh") .unsignedLong,
       .scalar (some "Reserved1") .unsignedLong],
     .scalar (some "Alignment") .unsignedInt64]⟩

/-- The types that the library knows. -/
def known : List Supplement :=
  [segmentDescriptor, interruptDescriptor]

/-- The first type of a registry that defines the name. -/
def named? (registry : List Supplement) (name : String) : Option Supplement :=
  registry.find? fun t => name ∈ t.names

theorem isSome_declaration_of_mem_known {t : Supplement} (h : t ∈ known) :
    t.declaration.isSome = true := by
  simp only [known, List.mem_cons, List.not_mem_nil, or_false] at h
  rcases h with rfl | rfl <;> decide

theorem isConsistent_of_mem_known {t : Supplement} (h : t ∈ known) : t.isConsistent = true := by
  simp only [known, List.mem_cons, List.not_mem_nil, or_false] at h
  rcases h with rfl | rfl <;> decide

end Supplement

end KitSurface
