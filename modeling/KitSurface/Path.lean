import KitSurface.Text.Utf8
/-!
Paths as texts. A path is a list of components between slashes; an absolute path begins with the
root. Runs of slashes and single dots between components do not count, and a parent is found by
cutting the last component off the text.
-/

namespace KitSurface

structure Path where
  text : String
  deriving DecidableEq, Repr

inductive Component where
  | root
  /-- A single dot at the front of a relative path. -/
  | here
  | up
  | name (text : String)
  deriving DecidableEq, Repr

/-- A path whose bytes are no text, with an approximation of it. -/
structure PathError where
  path : String
  deriving DecidableEq, Repr

namespace PathError

def message (e : PathError) : String :=
  "path is not valid unicode: " ++ e.path

end PathError

namespace Path

/-- The path begins with the root. -/
def isAbsolute (p : Path) : Bool :=
  p.text.toList.head? = some '/'

/-- A path below another one; an absolute path stays as it is. -/
def join (base : Path) (rest : String) : Path :=
  if (Path.mk rest).isAbsolute || base.text.isEmpty then ⟨rest⟩
  else if base.text.toList.getLast? = some '/' then ⟨base.text ++ rest⟩
  else ⟨base.text ++ "/" ++ rest⟩

/-- The path from the root down some names. -/
def ofNames (names : List String) : Path :=
  ⟨"/" ++ "/".intercalate names⟩

def pieces (p : Path) : List String :=
  (p.text.toList.splitOn '/').map String.ofList

/-- The component that a piece stands for, given that it is the first piece or not. -/
def component? (first : Bool) (piece : String) : Option Component :=
  if piece = "" then if first then some .root else none
  else if piece = "." then if first then some .here else none
  else if piece = ".." then some .up
  else some (.name piece)

/-- The components of pieces that begin at some place of the text, each with the place where it
ends. -/
def componentsFrom (first : Bool) (start : Nat) : List String → List (Component × Nat)
  | [] => []
  | piece :: rest =>
    let stop := start + piece.length
    let others := componentsFrom false (stop + 1) rest
    match component? first piece with
    | some c => (c, if c = .root then 1 else stop) :: others
    | none => others

/-- The components of a path, each with the place where it ends. -/
def extents (p : Path) : List (Component × Nat) :=
  if p.text.isEmpty then [] else componentsFrom true 0 p.pieces

def components (p : Path) : List Component :=
  p.extents.map (·.1)

/-- The ends of the components of a path but for the last one, the last first, and the end of the
empty path below them all. A root has nothing above it. -/
def parentEnds (p : Path) : List Nat :=
  match p.extents.reverse with
  | [] => []
  | _ :: above =>
    above.map (·.2) ++ (if p.isAbsolute then [] else [0])

/-- A path and the paths above it, from the longest to the shortest. -/
def ancestors (p : Path) : List Path :=
  p :: p.parentEnds.map fun stop => ⟨String.ofList (p.text.toList.take stop)⟩

/-- What marks a path as not to be processed any further. -/
def extendedPrefix : List Char := ['\\', '\\', '?', '\\']

/-- A path without the mark in front of it. -/
def withoutMark (p : Path) : Path :=
  match extendedPrefix.isPrefixOf? p.text.toList with
  | some rest => ⟨String.ofList rest⟩
  | none => p

/-- The path that bytes spell, without the mark in front of it. -/
def ofBytes (bytes : List UInt8) : Except PathError Path :=
  match Text.decode? bytes with
  | some text => .ok (Path.withoutMark ⟨text⟩)
  | none => .error ⟨Text.decodeLossy bytes⟩

end Path

end KitSurface
