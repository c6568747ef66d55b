import KitSurface.Surface.Basic
/-!
Generator passes. Each selected subsystem has a pass of its own over the same wrapper header, and
patterns decide which files a pass takes. The framework takes every file of its family, core takes
what no other pass takes, and the other subsystems take their own headers. A pattern asks a file path
to end in a name or to contain one, whatever the case of its letters, and like every pattern of the
generator it applies to paths of one line.
-/

namespace KitSurface

/-! ## File patterns -/

/-- A condition on the path of a file. -/
inductive FilePattern where
  /-- The path ends in the name. -/
  | endsIn (name : String)
  /-- The path contains the name. -/
  | contains (name : String)
  deriving DecidableEq, Repr

namespace FilePattern

/-- The characters that have a meaning of their own in a pattern text. -/
def isMeta (c : Char) : Bool :=
  c ∈ ['\\', '.', '+', '*', '?', '(', ')', '|', '[', ']', '\x7b', '\x7d', '^', '$', '#', '&', '-',
    '~']

/-- A name in a pattern text, with a backslash before each character that has a meaning there. -/
def escape (name : String) : String :=
  String.ofList (name.toList.flatMap fun c => if isMeta c then ['\\', c] else [c])

def text : FilePattern → String
  | endsIn name => "(?i).*" ++ escape name
  | contains name => "(?i).*" ++ escape name ++ ".*"

/-- One form for the letters that differ in case only. The sign for kelvin counts as the letter
`k` and the long form of `s` as that letter. -/
def foldCase (c : Char) : Char :=
  if c = 'K' then 'k' else if c = 'ſ' then 's' else c.toLower

/-- Some suffix of the text begins with the word. -/
def hasInfix (word : List Char) : List Char → Bool
  | [] => word.isEmpty
  | c :: rest => word.isPrefixOf (c :: rest) || hasInfix word rest

/-- The path satisfies the condition. -/
def accepts (p : FilePattern) (path : String) : Bool :=
  let folded := path.toList.map foldCase
  !path.toList.contains '\n' &&
    match p with
    | endsIn name => (name.toList.map foldCase).isSuffixOf folded
    | contains name => hasInfix (name.toList.map foldCase) folded

end FilePattern

/-! ## Passes -/

namespace Surface

/-- The last part of a header path. -/
def fileName (header : String) : String :=
  String.ofList (header.toList.reverse.takeWhile (· != '/')).reverse

/-- The patterns of the files that the pass of a subsystem takes; none stands for all files. -/
def allowed (s : Surface) : Subsystem → List FilePattern
  | .core => []
  | .framework => if (s.groupsIn .framework).isEmpty then [] else [.contains "wdf"]
  | sub => (s.headersIn sub).map fun header => .endsIn (fileName header)

/-- The patterns of the files that the pass of a subsystem leaves to other passes. -/
def blocked (s : Surface) (sub : Subsystem) : List FilePattern :=
  if sub = .core then (s.subsystems.filter fun other => other ≠ .core).flatMap s.allowed else []

/-- The pass of a subsystem takes a file if one of its patterns accepts it, or it has none, and no
pattern blocks it. -/
def claims (s : Surface) (sub : Subsystem) (path : String) : Bool :=
  ((s.allowed sub).isEmpty || (s.allowed sub).any (·.accepts path)) &&
    !(s.blocked sub).any (·.accepts path)

end Surface

end KitSurface
