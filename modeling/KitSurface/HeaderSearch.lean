import KitSurface.Config.Include
import KitSurface.Header.Conflict
/-!
Header search. A header is looked up below the include paths in their order, and the first path
below which it is a file wins, as for the compiler. The check of a build searches for the headers of
its surface, and refuses headers that define the supplemental types.
-/

namespace KitSurface

/-- What a search asks of files. -/
structure FileAccess where
  isFile : Path → Bool
  read : Path → Except FileFault String

namespace FileTree

def access (t : FileTree) : FileAccess :=
  ⟨t.isFile, t.read⟩

end FileTree

/-- A header and the file that it was found as. -/
structure FoundHeader where
  header : String
  path : Path
  deriving DecidableEq, Repr

/-- Why a surface does not fit a kit. -/
inductive CheckError where
  | missingHeader (header : String) (searched : List Path)
  /-- A header defines a name of a supplemental type. -/
  | conflict (name : String) (header : Path)
  | file (error : FileError)
  | config (error : ConfigError)
  deriving Repr

namespace CheckError

def pathList : List Path → String
  | [] => "[]"
  | paths => "[\n" ++
    String.join (paths.map fun p => "    " ++ Text.quote p.text ++ ",\n") ++ "]"

def message : CheckError → String
  | missingHeader header searched =>
    "cannot find header `" ++ header ++ "` in any include path: " ++ pathList searched
  | conflict name header => "`" ++ name ++ "` is already defined by " ++ header.text
  | file error => error.message
  | config error => error.message

end CheckError

/-- A search below some include paths. -/
structure HeaderSearch where
  includePaths : List Path
  access : FileAccess

namespace HeaderSearch

def locate (search : HeaderSearch) (header : String) :
    Except CheckError FoundHeader :=
  match (search.includePaths.map (·.join header)).find? search.access.isFile with
  | some path => .ok ⟨header, path⟩
  | none => .error (.missingHeader header search.includePaths)

/-- The files that the headers of a surface are found as. -/
def locateAll (search : HeaderSearch) (s : Surface) : Except CheckError (List FoundHeader) :=
  s.headers.mapM search.locate

def readHeader (search : HeaderSearch) (h : FoundHeader) :
    Except CheckError (FoundHeader × String) :=
  match search.access.read h.path with
  | .ok text => .ok (h, text)
  | .error fault => .error (.file ⟨h.path, fault⟩)

def readAll (search : HeaderSearch) (headers : List FoundHeader) :
    Except CheckError (List (FoundHeader × String)) :=
  headers.mapM search.readHeader

end HeaderSearch

namespace Supplement

/-- Refuses headers of which one defines a name of a type; the first header decides, and of its
conflicts the first one. -/
def refuseConflicts (registry : List Supplement) : List (Path × String) → Except CheckError Unit
  | [] => .ok ()
  | (path, text) :: rest =>
    match conflicts registry text with
    | found :: _ => .error (.conflict found.name path)
    | [] => refuseConflicts registry rest

end Supplement

/-- Checks a surface: every header is found and can be read, and none defines a name of a supplemental
type. -/
def HeaderSearch.check (search : HeaderSearch) (s : Surface) :
    Except CheckError (List FoundHeader) := do
  let resolved ← search.locateAll s
  let sources ← search.readAll resolved
  Supplement.refuseConflicts s.supplements
    (sources.map fun (header, text) => (header.path, text))
  return resolved

namespace Config

/-- The include paths of a build, with an error as one of the check. -/
def searchPaths (c : Config) (tree : FileTree) : Except CheckError (List Path) :=
  (c.includePaths tree).mapError .config

/-- Checks the surface of a build against a kit, and returns the files of its headers. -/
def check (c : Config) (tree : FileTree) : Except CheckError (List FoundHeader) := do
  HeaderSearch.check ⟨← c.searchPaths tree, tree.access⟩ c.surface

end Config

end KitSurface
