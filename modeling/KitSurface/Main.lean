import KitSurface.CommandLine.Command
import KitSurface.Surface.Pass
/-!
The program: it reads its command line, runs the command against the files of the host, prints what
the command prints, and ends with a status that says whether the command succeeded.
-/

namespace KitSurface.Host

open System (mkFilePath)

/-- The entries below a path of the host. Of the files only those with a wanted name are read; the
others are empty. -/
partial def snapshot (wanted : List String) (path : String) : IO Entry := do
  let host := mkFilePath [path]
  if ← host.isDir then
    let entries ← host.readDir
    return .directory (← entries.toList.mapM fun entry => do
      return (entry.fileName, ← snapshot wanted (path ++ "/" ++ entry.fileName)))
  else if wanted.any fun name => path.endsWith name then
    return .file (← IO.FS.readBinFile path).toList
  else
    return .file []

/-- The variables that the search for a kit looks at, as far as they are set. -/
def environment : IO Environment := do
  let names := [Kit.contentRootVariable, Kit.kitsVariable, Kit.kitVersionVariable]
  return ⟨(← names.mapM fun name => do
    return (← IO.getEnv name).map fun value => (name, value)).filterMap id⟩

def roots (env : Environment) : CommandLine.Command → List Path
  | .check _ (some root) _ _ => [root]
  | .check _ none _ _ =>
    ((env.get? Kit.contentRootVariable).map Path.mk).toList ++ (Kit.rootBelow? env).toList
  | _ => []

def headers : CommandLine.Command → List String
  | .check s _ _ _ => s.headers.map Surface.fileName
  | _ => []

/-- The part of the host's files that a command looks at. -/
def files (env : Environment) (command : CommandLine.Command) : IO FileTree := do
  let current : Path := ⟨(← IO.currentDir).toString⟩
  let names := (FileTree.mk (.directory []) []).namesTo current
  let empty : FileTree := FileTree.putDirectory ⟨.directory [], names⟩ current
  (roots env command).foldlM (fun tree root => do
    if ← (mkFilePath [root.text]).pathExists then
      let entry ← snapshot (headers command) root.text
      return { tree with root := tree.root.put (tree.namesTo root) entry }
    else return tree) empty

/-- Runs a command on the host. A header is written to the host itself. -/
def run (env : Environment) (command : CommandLine.Command) : IO UInt32 := do
  match command with
  | .render s (some output) =>
    try
      IO.FS.writeFile output.text s.wrapperHeader
      return 0
    catch e =>
      let said := (CommandLine.CommandError.notWritten ⟨output, .other⟩).message
      IO.eprintln (said ++ ": " ++ toString e)
      return 1
  | _ =>
    match command.run env (← files env command) with
    | .ok outcome =>
      IO.print outcome.output
      return 0
    | .error e =>
      IO.eprintln (": ".intercalate (e.message :: e.causes))
      return 1

end KitSurface.Host

open KitSurface in
/-- Reads the command line and runs its command. -/
def main (words : List String) : IO UInt32 := do
  match CommandLine.parse words with
  | .error .helpWanted | .error .versionWanted =>
    IO.println CommandLine.UsageError.programName
    return 0
  | .error e =>
    IO.eprintln (e.message?.getD CommandLine.UsageError.programName)
    return 2
  | .ok invocation => Host.run (← Host.environment) invocation.command
