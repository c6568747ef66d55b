import KitSurface.Group
import KitSurface.Marker
import KitSurface.Supplement
/-!
Declaration surfaces. A build context and options determine which groups, headers, supplemental
types and markers a build sees, and in which order.
-/

namespace KitSurface

/-- The surface of a context under some options. -/
structure Surface where
  context : BuildContext
  options : Options
  deriving DecidableEq, Repr

/-- A list without the elements that equal their predecessor. -/
def dropRepeats {α : Type} [DecidableEq α] : List α → List α
  | [] => []
  | [a] => [a]
  | a :: b :: rest => if a = b then dropRepeats (b :: rest) else a :: dropRepeats (b :: rest)

namespace Surface

/-- The groups that are admitted to the context and not turned off. -/
def groups (s : Surface) : List Group :=
  Group.all.filter fun g => g.inclusion.admits s.context && g.isEnabled s.options

/-- The supplemental types that are admitted to the context. -/
def supplements (s : Surface) : List Supplement :=
  Supplement.known.filter fun t => t.inclusion.admits s.context

def subsystems (s : Surface) : List Subsystem :=
  dropRepeats (s.groups.map Group.subsystem)

def groupsIn (s : Surface) (sub : Subsystem) : List Group :=
  s.groups.filter fun g => g.subsystem = sub

/-- The headers of every selected group, each once. -/
def headers (s : Surface) : List String :=
  (s.groups.flatMap fun g => g.headers s.options).eraseDups

/-- The headers of the selected groups of a subsystem. -/
def headersIn (s : Surface) (sub : Subsystem) : List String :=
  (s.groupsIn sub).flatMap fun g => g.headers s.options

/-- A surface holds what a marker is about: a group of its subsystem, or a supplemental type. -/
def holds (s : Surface) : MarkerScope → Bool
  | .subsystem sub => !(s.groupsIn sub).isEmpty
  | .supplements => !s.supplements.isEmpty

def markers (s : Surface) : List Marker :=
  Marker.all.filter fun m => m.inclusion.admits s.context && s.holds m.scope

/-- The markers of a surface that are about one scope. -/
def markersIn (s : Surface) (scope : MarkerScope) : List Marker :=
  s.markers.filter fun m => m.scope = scope

end Surface

end KitSurface
