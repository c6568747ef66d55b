import KitSurface.Path
/-!
File trees: directories with named entries and files with bytes, without links. A path is followed
from the root or from the current directory, one piece at a time, and every piece but the last must
lead to a directory. An operation that fails tells its fault, with the path of the operation.
-/

namespace KitSurface

/-! ## Faults -/

/-- Why an operation on a file fails. -/
inductive FileFault where
  | notFound
  | notADirectory
  | isADirectory
  | nameTooLong
  /-- The path holds a character that ends texts for the operating system. -/
  | nulInPath
  /-- The bytes of the file are no text. -/
  | notText
  /-- No entry of the directory is a version. -/
  | noVersion (directory : Path)
  | permissionDenied
  | invalidData
  | other
  deriving DecidableEq, Repr

namespace FileFault

def kind : FileFault → String
  | notFound | noVersion _ => "NotFound"
  | notADirectory => "NotADirectory"
  | isADirectory => "IsADirectory"
  | nameTooLong => "InvalidFilename"
  | nulInPath => "InvalidInput"
  | notText | invalidData => "InvalidData"
  | permissionDenied => "PermissionDenied"
  | other => "Other"

def message : FileFault → String
  | notFound => "No such file or directory (os error 2)"
  | notADirectory => "Not a directory (os error 20)"
  | isADirectory => "Is a directory (os error 21)"
  | nameTooLong => "File name too long (os error 36)"
  | nulInPath => "file name contained an unexpected NUL byte"
  | notText => "stream did not contain valid UTF-8"
  | noVersion directory => "Maximum version in " ++ directory.text ++ " not found"
  | permissionDenied => "permission denied"
  | invalidData => "invalid data"
  | other => "other error"

end FileFault

/-- A fault of an operation on a path. -/
structure FileError where
  path : Path
  fault : FileFault
  deriving DecidableEq, Repr

namespace FileError

/-- The text of an error; that of its fault is reported beside it. -/
def message (e : FileError) : String :=
  "failed to perform IO operation on " ++ e.path.text

end FileError

/-! ## Trees -/

/-- A file or a directory. The entries of a directory are in the order of its listing. -/
inductive Entry where
  | file (content : List UInt8)
  | directory (entries : List (String × Entry))
  deriving Repr

namespace Entry

def isFile : Entry → Bool
  | file _ => true
  | directory _ => false

def isDirectory : Entry → Bool
  | file _ => false
  | directory _ => true

/-- The entries of a directory; a file has none. -/
def entries : Entry → List (String × Entry)
  | file _ => []
  | directory es => es

def child? (e : Entry) (name : String) : Option Entry :=
  e.entries.lookup name

/-- Entries with one of them replaced, or added at the end. -/
def putIn (name : String) (value : Entry) : List (String × Entry) → List (String × Entry)
  | [] => [(name, value)]
  | (n, e) :: rest => if n = name then (n, value) :: rest else (n, e) :: putIn name value rest

/-- A tree with an entry put at a place; directories that are missing above it are made. -/
def put (e : Entry) : List String → Entry → Entry
  | [], value => value
  | name :: names, value =>
    directory (putIn name (put ((e.child? name).getD (directory [])) names value) e.entries)

/-- A tree with a directory at a place and directories above it; what is there stays. -/
def makeDirectory (e : Entry) : List String → Entry
  | [] => e
  | name :: names =>
    directory (putIn name (makeDirectory ((e.child? name).getD (directory [])) names) e.entries)

/-- A tree without the entry at a place. -/
def erase (e : Entry) : List String → Entry
  | [] => e
  | [name] => directory (e.entries.filter fun entry => entry.1 ≠ name)
  | name :: names =>
    match e.child? name with
    | some below => directory (putIn name (erase below names) e.entries)
    | none => e

end Entry

/-- The number of bytes below which the text of a path must stay. -/
def FileTree.pathLimit : Nat := 4096

/-- A place in a tree: the entries from the root down to it, the innermost first. -/
structure Place where
  above : List (String × Entry)
  root : Entry

namespace Place

/-- The entry at a place. -/
def entry (p : Place) : Entry :=
  match p.above with
  | [] => p.root
  | (_, e) :: _ => e

/-- The names from the root down to a place. -/
def names (p : Place) : List String :=
  p.above.reverse.map (·.1)

/-- The number of bytes that a name can have. -/
def nameLimit : Nat := 255

def checkName (name : String) : Except FileFault Unit :=
  if name.utf8ByteSize ≤ nameLimit then .ok () else .error .nameTooLong

def step (p : Place) (piece : String) : Except FileFault Place :=
  match p.entry with
  | .file _ => .error .notADirectory
  | .directory entries =>
    if piece = "" || piece = "." then .ok p
    else if piece = ".." then .ok { p with above := p.above.tail }
    else do
      checkName piece
      match entries.lookup piece with
      | some e => return { p with above := (piece, e) :: p.above }
      | none => throw .notFound

/-- The place that the pieces of a path lead to. -/
def walk (p : Place) (pieces : List String) : Except FileFault Place :=
  pieces.foldlM step p

/-- The full path to a name at a place is too long to be looked up. -/
def isTooFar (p : Place) (name : String) : Bool :=
  FileTree.pathLimit ≤ (Path.ofNames (p.names ++ [name])).text.utf8ByteSize

/-- A step on the way to a full path, by which every name is looked up. -/
def stepInFull (p : Place) (piece : String) : Except FileFault Place :=
  if piece ∉ ["", ".", ".."] ∧ p.isTooFar piece then .error .nameTooLong else p.step piece

/-- The place that the pieces of a path lead to, where every name on the way has a full path. -/
def walkInFull (p : Place) (pieces : List String) : Except FileFault Place :=
  pieces.foldlM stepInFull p

end Place

/-- A file tree with the names down to its current directory. -/
structure FileTree where
  root : Entry
  current : List String
  deriving Repr

namespace FileTree

/-- The place at which paths of a kind start. -/
def start (t : FileTree) (p : Path) : Except FileFault Place :=
  if p.isAbsolute then .ok ⟨[], t.root⟩ else (Place.mk [] t.root).walk t.current

/-- The text of a path is one that can be looked up. -/
def checkPath (p : Path) : Except FileFault Unit :=
  if '\x00' ∈ p.text.toList then .error .nulInPath
  else if p.text.utf8ByteSize ≥ pathLimit then .error .nameTooLong
  else if p.text.isEmpty then .error .notFound
  else .ok ()

/-- The place that a path leads to. -/
def find (t : FileTree) (p : Path) : Except FileFault Place := do
  checkPath p
  (← t.start p).walk p.pieces

def entry? (t : FileTree) (p : Path) : Option Entry :=
  ((t.find p).map Place.entry).toOption

def isFile (t : FileTree) (p : Path) : Bool :=
  (t.entry? p).any Entry.isFile

def isDirectory (t : FileTree) (p : Path) : Bool :=
  (t.entry? p).any Entry.isDirectory

def has (t : FileTree) (p : Path) : Bool :=
  (t.entry? p).isSome

def read (t : FileTree) (p : Path) : Except FileFault String := do
  match (← t.find p).entry with
  | .directory _ => throw .isADirectory
  | .file content =>
    match Text.decode? content with
    | some text => return text
    | none => throw .notText

def list (t : FileTree) (p : Path) : Except FileFault (List (String × Entry)) := do
  match (← t.find p).entry with
  | .directory entries => return entries
  | .file _ => throw .notADirectory

/-- The path from the root to what a path leads to. -/
def canonical (t : FileTree) (p : Path) : Except FileFault Path := do
  checkPath p
  return .ofNames (← (← t.start p).walkInFull p.pieces).names

/-- Writes a text to a file, which is made unless it is there; its directory must be there. A path
that ends in a slash or in dots is one of a directory. -/
def write (t : FileTree) (p : Path) (text : String) : Except FileFault FileTree := do
  checkPath p
  match p.pieces.reverse.dropWhile (· == "") with
  | [] => throw .isADirectory
  | name :: above =>
    let place ← (← t.start p).walk above.reverse
    if place.entry.isFile then throw .notADirectory
    if p.pieces.getLast? = some "" || name ∈ [".", ".."] then throw .isADirectory
    Place.checkName name
    if (place.entry.child? name).any Entry.isDirectory then throw .isADirectory
    return { t with root := t.root.put (place.names ++ [name]) (.file (Text.encode text)) }

/-- The names from the root down to a component of a path, given those down to the one before. -/
def descend (names : List String) : Component → List String
  | .root => []
  | .here => names
  | .up => names.dropLast
  | .name n => names ++ [n]

/-- The names from the root down to a path, whether anything is there or not. -/
def namesTo (t : FileTree) (p : Path) : List String :=
  p.components.foldl descend t.current

/-- A tree with directories down to every one of some components in turn. -/
def makeAlong (root : Entry) (names : List String) : List Component → Entry
  | [] => root
  | c :: rest => makeAlong (root.makeDirectory (descend names c)) (descend names c) rest

/-- A tree with a file of some bytes, and with directories down to it. -/
def putFile (t : FileTree) (p : Path) (content : List UInt8) : FileTree :=
  let above := makeAlong t.root t.current p.components.dropLast
  { t with root := above.put (t.namesTo p) (.file content) }

/-- A tree with a directory, and with directories down to it. -/
def putDirectory (t : FileTree) (p : Path) : FileTree :=
  { t with root := makeAlong t.root t.current p.components }

/-- A tree without a file or directory and all that is in it. -/
def remove (t : FileTree) (p : Path) : FileTree :=
  { t with root := t.root.erase (t.namesTo p) }

end FileTree

end KitSurface
