import KitSurface.FileTree.Basic
import KitSurface.Version
/-!
The installed kit. Its root is told by the variables of the environment: either directly, or as the
directory of all kits together with the version of this one. Below the root there are directories that
are named after versions: two-part versions, of which the newest one is taken, and versions of the
development kit, which begin with ten. Both orders compare numbers and not digits.
-/

namespace KitSurface

/-! ## The environment -/

/-- The variables of a process with their values. -/
structure Environment where
  assignments : List (String × String)
  deriving Repr

namespace Environment

/-- The value of a variable that is set. -/
def get? (e : Environment) (name : String) : Option String :=
  e.assignments.lookup name

end Environment

/-! ## The root of the kit -/

namespace Kit

/-- The variable with the root of the kit. -/
def contentRootVariable : String := "WDKContentRoot"

/-- The variable with the directory that all kits are below. -/
def kitsVariable : String := "MicrosoftKitRoot"

/-- The variable with the version of the kit. -/
def kitVersionVariable : String := "WDKKitVersion"

/-- The version of the kit where none is given. -/
def defaultKitVersion : String := "10.0"

def directory? (tree : FileTree) (p : Path) : Option Path :=
  if tree.isDirectory p then some p else none

/-- The place of the kit below the directory of all kits. -/
def rootBelow? (env : Environment) : Option Path :=
  (env.get? kitsVariable).map fun kits =>
    ((Path.mk kits).join "Windows Kits").join ((env.get? kitVersionVariable).getD defaultKitVersion)

/-- The directory of all kits is given in full and is there. -/
def hasKits (env : Environment) (tree : FileTree) : Bool :=
  (env.get? kitsVariable).any fun kits =>
    (Path.mk kits).isAbsolute && tree.isDirectory ⟨kits⟩

/-- The root of the kit. A variable that does not lead to a directory is passed over. -/
def detectRoot (env : Environment) (tree : FileTree) : Option Path :=
  ((env.get? contentRootVariable).bind fun text => directory? tree ⟨text⟩).or
    (if hasKits env tree then (rootBelow? env).bind (directory? tree) else none)

end Kit

/-! ## Version directories -/

namespace Kit

/-- The names of the entries of a listing that are directories themselves. -/
def directoryNames (entries : List (String × Entry)) : List String :=
  (entries.filter fun entry => entry.2.isDirectory).map (·.1)

/-- The versions that the directories of a listing are named after. -/
def versionsOf (entries : List (String × Entry)) : List Version :=
  (directoryNames entries).filterMap fun name => Version.parse? name.toList

/-- The greatest version that a directory below the path is named after. -/
def newestVersion (tree : FileTree) (p : Path) : Except FileError Version :=
  match tree.list p with
  | .error fault => .error ⟨p, fault⟩
  | .ok entries =>
    match Version.greatest? (versionsOf entries) with
    | some v => .ok v
    | none => .error ⟨p, .noVersion p⟩

/-- The greatest version that a directory below one of several paths is named after. Paths that
cannot be listed are passed over. -/
def newestVersionIn? (tree : FileTree) (includePaths : List Path) (directory : String) :
    Option Version :=
  Version.greatest? (includePaths.filterMap fun p =>
    (newestVersion tree (p.join directory)).toOption)

/-- The numbers between the points of a name that begins with ten and a point. -/
def sdkNumbers? (name : String) : Option (List UInt32) :=
  if ['1', '0', '.'].isPrefixOf name.toList then
    (name.toList.splitOn '.').mapM Text.parseWord?
  else none

/-- The order of number lists: the first difference decides, and a list is greater than what it
begins with. -/
def leNumbers : List UInt32 → List UInt32 → Bool
  | [], _ => true
  | _ :: _, [] => false
  | a :: as, b :: bs => a < b || (a == b && leNumbers as bs)

/-- The name with the greatest numbers; of names with equal numbers the last one. -/
def greatestSdk? : List (List UInt32 × String) → Option (List UInt32 × String)
  | [] => none
  | candidate :: rest =>
    match greatestSdk? rest with
    | none => some candidate
    | some best => some (if leNumbers candidate.1 best.1 then best else candidate)

/-- A name below a path with its numbers, if the path of the name leads to a directory and the name is
that of a version of the development kit. -/
def sdkDirectory? (tree : FileTree) (p : Path) (name : String) : Option (List UInt32 × String) :=
  if tree.isDirectory (p.join name) then (sdkNumbers? name).map fun ns => (ns, name) else none

/-- The directories in the listing of a path that are named after versions of the development kit. -/
def sdkDirectories (tree : FileTree) (p : Path) (entries : List (String × Entry)) :
    List (List UInt32 × String) :=
  (entries.map (·.1)).filterMap (sdkDirectory? tree p)

/-- The newest version of the development kit in the listing of a path. -/
def newestSdkIn? (tree : FileTree) (p : Path) (entries : List (String × Entry)) : Option String :=
  (greatestSdk? (sdkDirectories tree p entries)).map (·.2)

end Kit

end KitSurface
