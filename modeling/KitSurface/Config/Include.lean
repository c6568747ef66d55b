import KitSurface.Config.Basic
import KitSurface.Kit
/-!
The include paths of a build, in the order of their search: the directories of the development
kit, and that of the driver framework where the context has one.
-/

namespace KitSurface.Config

/-- The directory that all include paths are below. -/
def includeDirectory (c : Config) : Path :=
  c.root.join "Include"

/-- The version of the development kit: the one that is given, or the newest one there is. -/
def resolveSdk (c : Config) (tree : FileTree) : Except ConfigError String :=
  match c.sdkVersion with
  | some version => .ok version
  | none =>
    match tree.list c.includeDirectory with
    | .error fault => .error (.file ⟨c.includeDirectory, fault⟩)
    | .ok entries =>
      match Kit.newestSdkIn? tree c.includeDirectory entries with
      | some version => .ok version
      | none =>
        .error (.directoryNotFound ("Windows SDK Directory in " ++ c.includeDirectory.text))

/-- The directory of the newest version of a framework. -/
def newestFramework (c : Config) (tree : FileTree) (kind : Framework) : Except ConfigError Path :=
  let directory := c.includeDirectory.join ("wdf/" ++ kind.name)
  match Kit.newestVersion tree directory with
  | .ok version => .ok (directory.join version.text)
  | .error error => .error (.file error)

/-- The directory of the driver framework: that of the version which the driver model pins, or of
the newest version in a context that has a framework. -/
def frameworkPath (c : Config) (tree : FileTree) : Except ConfigError (Option Path) :=
  match c.driverModel, c.context with
  | some (.framework kind pin), _ => .ok (some (c.includeDirectory.join (pin.directory kind)))
  | _, .kernelMode => (c.newestFramework tree .kmdf).map some
  | _, .umdf => (c.newestFramework tree .umdf).map some
  | _, .userMode => .ok none

/-- The directories of the development kit. -/
def sdkPaths (c : Config) (sdk : String) : List Path :=
  let directory := c.includeDirectory.join sdk
  [directory.join "km/crt", directory.join (if c.context.isKernelMode then "km" else "um"),
   directory.join "shared"]

/-- The paths that the include paths are made from. -/
def candidatePaths (c : Config) (tree : FileTree) : Except ConfigError (List Path) := do
  let sdk ← c.resolveSdk tree
  return c.sdkPaths sdk ++ (← c.frameworkPath tree).toList

/-- The full path of a directory. -/
def canonicalDirectory (tree : FileTree) (p : Path) : Except ConfigError Path :=
  if tree.isDirectory p then (tree.canonical p).mapError fun fault => .file ⟨p, fault⟩
  else .error (.directoryNotFound p.text)

def includePaths (c : Config) (tree : FileTree) : Except ConfigError (List Path) := do
  c.validate
  (← c.candidatePaths tree).mapM (canonicalDirectory tree)

end KitSurface.Config
