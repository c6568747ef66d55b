import KitSurface.Surface.Basic
/-!
The texts of a surface. The wrapper header is C text that includes every header of the surface and
defines its supplemental types: a banner, one block for each subsystem, and one block for the types.
The listing tells people the subsystems, groups, headers and types. The difference of two surfaces is
what only one of them has; what is added is in the order of the second surface, what is removed in
that of the first.
-/

namespace KitSurface

/-! ## The wrapper header -/

namespace Surface

def line (text : String) : String :=
  text ++ "\n"

def includeLine (header : String) : String :=
  line ("#include \"" ++ header ++ "\"")

def banner (c : BuildContext) : String :=
  line ("// Declaration surface for the `" ++ c.name ++ "` build context.") ++
    line "// Generated by wdk-surface. Do not edit." ++ line "" ++ line "#pragma once"

def blockHead (s : Surface) (title : String) (scope : MarkerScope) : String :=
  line "" ++ line ("// " ++ title) ++
    String.join ((s.markersIn scope).map fun m => line m.comment)

def subsystemBlock (s : Surface) (sub : Subsystem) : String :=
  s.blockHead sub.title (.subsystem sub) ++ String.join ((s.headersIn sub).map includeLine)

/-- The block of the supplemental types. -/
def supplementBlock (s : Surface) : String :=
  if s.supplements.isEmpty then ""
  else s.blockHead "Supplemental Type Definitions" .supplements ++
    String.join ((s.supplements.filterMap Supplement.declaration).map fun text => "\n" ++ text)

def wrapperHeader (s : Surface) : String :=
  banner s.context ++ String.join (s.subsystems.map s.subsystemBlock) ++ s.supplementBlock

end Surface

/-! ## Listings -/

namespace Surface

def groupListing (s : Surface) (g : Group) : String :=
  line ("  " ++ g.name) ++ String.join ((g.headers s.options).map fun h => line ("    " ++ h))

def subsystemListing (s : Surface) (sub : Subsystem) : String :=
  line (sub.name ++ " (" ++ sub.title ++ ")") ++
    String.join ((s.groupsIn sub).map s.groupListing)

def supplementListing (t : Supplement) : String :=
  line ("  " ++ t.tag ++ " (" ++ t.typedefName ++ ", " ++ t.pointerName ++ "): " ++ t.reason)

def listing (s : Surface) : String :=
  line ("build context: " ++ s.context.name) ++
    String.join (s.subsystems.map s.subsystemListing) ++
    (if s.supplements.isEmpty then ""
     else line "supplemental types" ++ String.join (s.supplements.map supplementListing))

def markerListing (markers : List Marker) : String :=
  String.join (markers.map fun m => line m.text)

end Surface

/-! ## Differences -/

/-- What only the second of two surfaces has, and what only the first one has. -/
structure Difference where
  addedGroups : List Group
  removedGroups : List Group
  addedHeaders : List String
  removedHeaders : List String
  addedSupplements : List String
  removedSupplements : List String
  deriving DecidableEq, Repr

/-- The elements of the first list that are not in the second. -/
def without {α : Type} [DecidableEq α] (xs ys : List α) : List α :=
  xs.filter fun x => x ∉ ys

namespace Surface

/-- The tags of the supplemental types of a surface. -/
def tags (s : Surface) : List String :=
  s.supplements.map (·.tag)

def difference (first second : Surface) : Difference where
  addedGroups := without second.groups first.groups
  removedGroups := without first.groups second.groups
  addedHeaders := without second.headers first.headers
  removedHeaders := without first.headers second.headers
  addedSupplements := without second.tags first.tags
  removedSupplements := without first.tags second.tags

end Surface

namespace Difference

/-- Nothing is added and nothing is removed. -/
def isEmpty (d : Difference) : Bool :=
  d.addedGroups.isEmpty && d.removedGroups.isEmpty && d.addedHeaders.isEmpty &&
    d.removedHeaders.isEmpty && d.addedSupplements.isEmpty && d.removedSupplements.isEmpty

def lines (sign kind : String) (entries : List String) : String :=
  String.join (entries.map fun entry => Surface.line (sign ++ " " ++ kind ++ " " ++ entry))

/-- A difference as text, one entry a line; of each kind of entry what is removed comes first. -/
def text (d : Difference) : String :=
  lines "-" "group" (d.removedGroups.map Group.name) ++
    lines "+" "group" (d.addedGroups.map Group.name) ++
    lines "-" "header" d.removedHeaders ++ lines "+" "header" d.addedHeaders ++
    lines "-" "shim" d.removedSupplements ++ lines "+" "shim" d.addedSupplements

end Difference

end KitSurface
