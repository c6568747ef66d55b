import KitSurface.Path
import KitSurface.Settings
/-!
The settings of a workspace. Each package and the workspace itself can hold a section of settings
in its metadata; a build takes the settings that all of these sections agree on.
-/

namespace KitSurface

/-- A package: its name, the path of its manifest, and the metadata that the manifest holds. -/
structure Package where
  name : String
  manifest : Path
  metadata : Json
  deriving Repr

structure Workspace where
  packages : List Package
  root : Path
  metadata : Json
  deriving Repr

/-- Why a workspace does not give settings. -/
inductive SettingsError where
  /-- There is no section. -/
  | noSection
  /-- The sections hold more than one value; these are the distinct ones. -/
  | severalSettings (settings : List Settings)
  /-- A section does not hold settings. -/
  | unreadable (source : String) (error : DecodeError)
  deriving Repr

namespace SettingsError

def message : SettingsError → String
  | noSection =>
    "no wdk-surface configuration metadata is detected in the dependency graph. This could " ++
    "happen when building library crates that defer the build context to their consumers"
  | severalSettings _ =>
    "multiple wdk-surface configurations are detected across the dependency graph, but only " ++
    "one configuration is allowed"
  | unreadable source _ => "failed to deserialize metadata::WdkSurface from " ++ source

end SettingsError

/-- A section of settings, with the words that messages call it. -/
structure Section where
  source : String
  content : Json
  deriving Repr

namespace Package

def sectionKey : String := "wdk-surface"

/-- The section of a package. An empty table only marks the package as one that uses a surface, so
it counts as none. -/
def section? (p : Package) : Option Section :=
  match p.metadata.get? sectionKey with
  | none | some .null | some (.object []) => none
  | some content =>
    some ⟨"package.metadata[\"" ++ sectionKey ++ "\"] for " ++ p.name ++ " package", content⟩

end Package

namespace Section

def read (s : Section) : Except SettingsError Settings :=
  (Settings.ofJson s.content).mapError (.unreadable s.source)

end Section

namespace Workspace

def section? (w : Workspace) : Option Section :=
  match w.metadata.get? Package.sectionKey with
  | none | some .null => none
  | some content =>
    some ⟨"workspace_metadata[\"" ++ Package.sectionKey ++ "\"]", content⟩

/-- The sections of the packages in order, and then the one of the workspace. -/
def sections (w : Workspace) : List Section :=
  w.packages.filterMap Package.section? ++ w.section?.toList

/-- The settings that the sections agree on. -/
def settings (w : Workspace) : Except SettingsError Settings := do
  match (← w.sections.mapM Section.read).eraseDups with
  | [] => throw .noSection
  | [s] => return s
  | several => throw (.severalSettings several)

/-- The manifests of the packages and of the workspace, each once: of two paths with the same
components the first one is kept. -/
def manifests (w : Workspace) : List Path :=
  (w.packages.map (·.manifest) ++ [w.root.join "Cargo.toml"]).foldl (fun paths p =>
    if paths.any fun q => q.components == p.components then paths else paths ++ [p]) []

end Workspace

end KitSurface
