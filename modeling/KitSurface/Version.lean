import KitSurface.Text.Basic
/-!
Two-part versions `major.minor`, which name the versioned header directories of a kit. Versions
are ordered as pairs of numbers, so that `1.10` comes after `1.9`.
-/

namespace KitSurface

/-- A version of two numbers. -/
structure Version where
  major : UInt32
  minor : UInt32
  deriving DecidableEq, Repr

structure VersionError where
  value : String
  deriving DecidableEq, Repr

namespace VersionError

def message (e : VersionError) : String :=
  "`" ++ e.value ++ "` is not a version of the form major.minor"

end VersionError

namespace Version

/-- The number before the first point and the number after it. -/
def parse? (text : List Char) : Option Version :=
  match text.dropWhile (· != '.') with
  | [] => none
  | _ :: minor => do
    let major ← Text.parseWord? (text.takeWhile (· != '.'))
    return ⟨major, ← Text.parseWord? minor⟩

/-- Reads a version, and returns the text itself where it is none. -/
def parse (text : String) : Except VersionError Version :=
  match parse? text.toList with
  | some version => .ok version
  | none => .error ⟨text⟩

/-- Both numbers in decimal, with a point between them. -/
def text (v : Version) : String :=
  Nat.repr v.major.toNat ++ "." ++ Nat.repr v.minor.toNat

/-- The major number decides, and the minor number between equal major numbers. -/
def le (a b : Version) : Bool :=
  a.major < b.major || (a.major == b.major && a.minor ≤ b.minor)

/-- Ascending order. -/
def sort (versions : List Version) : List Version :=
  versions.mergeSort le

def greatest? : List Version → Option Version
  | [] => none
  | v :: rest =>
    match greatest? rest with
    | none => some v
    | some w => some (if v.le w then w else v)

end Version

end KitSurface
