import KitSurface.Serialized.Reader
import KitSurface.Text.Basic
import KitSurface.Workspace.Platform
import KitSurface.Workspace.SemanticVersion
import KitSurface.Workspace.Settings
/-!
Descriptions of workspaces. The build tool describes a workspace on a line of its output that is a
JSON document; other lines do not count. Of a description only the settings and the places of the
packages are kept, but all of it must have its form.
-/

namespace KitSurface

/-- What a run of the build tool leaves behind. -/
structure ToolRun where
  succeeded : Bool
  output : String
  errors : String
  deriving Repr

/-- Why there is no description of a workspace. -/
inductive DescriptionError where
  /-- The build tool failed. -/
  | toolFailed (errors : String)
  /-- No line of the output is an object. -/
  | noDocument
  /-- The document is no description. -/
  | malformed (error : DocumentError)
  deriving Repr

namespace DescriptionError

def message : DescriptionError → String
  | toolFailed errors => "`cargo metadata` exited with an error: " ++ errors
  | noDocument => "could not find any json in the output of `cargo metadata`"
  | malformed error => "failed to interpret `cargo metadata`'s json: " ++ error.message

end DescriptionError

namespace Description

open DocumentField (kept unused)

def version : Reader SemanticVersion :=
  .textThat "semver version" fun s =>
    (SemanticVersion.parse s).mapError fun e => .refused e.message

def requirement : Reader Unit :=
  .textThat "semver version" fun s =>
    (VersionRequirement.check s).mapError fun e => .refused e.message

/-- The version of a toolchain, or why a text is none: it has no labels, and its patch number can be
left out. -/
def toolchain (text : String) : Decoded SemanticVersion :=
  match text.toList.find? fun c => c = '-' || c = '+' with
  | some '-' => .error (.refused "pre-release identifiers are not supported in rust-version")
  | some _ => .error (.refused "build metadata is not supported in rust-version")
  | none =>
    let full := if text.toList.count '.' = 1 then text ++ ".0" else text
    (SemanticVersion.parse full).mapError fun e => .refused e.message

def toolchainVersion : Reader Unit :=
  (Reader.optional .text).checked fun
    | some text => (toolchain text).map fun _ => ()
    | none => .ok ()

def platform : Reader (Option Unit) :=
  .optional <| Reader.text.checked fun s =>
    (Platform.check s).mapError fun e => .refused e.message

/-- The names of the editions of the language. -/
def editionNames : List String :=
  ["2015", "2018", "2021", "2024", "2027", "2030"]

def edition : Reader String :=
  .variant fun name =>
    if name ∈ editionNames then .ok name else .error (.unknownVariant name editionNames)

/-- What a dependency is needed for; a kind with another name is taken as it is. -/
def dependencyKind : Reader (Option String) :=
  .optional (.variant .ok)

def crateType : Reader String :=
  .textOrVariant "CrateType"
    ["bin", "cdylib", "dylib", "lib", "proc-macro", "rlib", "staticlib"]

def targetKind : Reader String :=
  .textOrVariant "TargetKind"
    ["bench", "bin", "custom-build", "cdylib", "dylib", "example", "lib", "proc-macro", "rlib",
     "staticlib", "test"]

def dependency : Reader Unit :=
  .record "Dependency"
    [unused "name" .required Reader.text,
     unused "source" .nullable (Reader.optional .text),
     unused "req" .required requirement,
     unused "kind" .required dependencyKind,
     unused "optional" .required Reader.flag,
     unused "uses_default_features" .required Reader.flag,
     unused "features" .required (Reader.list .text),
     unused "target" .nullable platform,
     unused "rename" .nullable (Reader.optional .text),
     unused "registry" .nullable (Reader.optional .text),
     unused "path" .nullable (Reader.optional .path)] ()

def target : Reader Unit :=
  .record "Target"
    [unused "name" .required Reader.text,
     unused "kind" .required (Reader.list targetKind),
     unused "crate_types" .defaulted (Reader.list crateType),
     unused "required-features" .defaulted (Reader.list .text),
     unused "src_path" .required Reader.path,
     unused "edition" .defaulted edition,
     unused "doctest" .defaulted Reader.flag,
     unused "test" .defaulted Reader.flag,
     unused "doc" .defaulted Reader.flag] ()

def package : Reader Package :=
  .record "Package"
    [kept "name" .required Reader.text fun name p => { p with name },
     unused "version" .required version,
     unused "authors" .defaulted (Reader.list .text),
     unused "id" .required Reader.text,
     unused "source" .nullable (Reader.optional .text),
     unused "description" .nullable (Reader.optional .text),
     unused "dependencies" .required (Reader.list dependency),
     unused "license" .nullable (Reader.optional .text),
     unused "license_file" .nullable (Reader.optional .path),
     unused "targets" .required (Reader.list target),
     unused "features" .required (Reader.members (.list .text)),
     kept "manifest_path" .required Reader.path fun path p => { p with manifest := ⟨path⟩ },
     unused "categories" .defaulted (Reader.list .text),
     unused "keywords" .defaulted (Reader.list .text),
     unused "readme" .nullable (Reader.optional .path),
     unused "repository" .nullable (Reader.optional .text),
     unused "homepage" .nullable (Reader.optional .text),
     unused "documentation" .nullable (Reader.optional .text),
     unused "edition" .defaulted edition,
     kept "metadata" .defaulted Reader.any fun metadata p => { p with metadata },
     unused "links" .nullable (Reader.optional .text),
     unused "publish" .nullable (Reader.optional (.list .text)),
     unused "default_run" .nullable (Reader.optional .text),
     unused "rust_version" .defaulted toolchainVersion]
    ⟨"", ⟨""⟩, .null⟩

def dependencyUse : Reader Unit :=
  .record "DepKindInfo"
    [unused "kind" .required dependencyKind,
     unused "target" .nullable platform] ()

def graphEdge : Reader Unit :=
  .record "NodeDep"
    [unused "name" .required Reader.text,
     unused "pkg" .required Reader.text,
     unused "dep_kinds" .defaulted (Reader.list dependencyUse)] ()

def graphNode : Reader Unit :=
  .record "Node"
    [unused "id" .required Reader.text,
     unused "deps" .defaulted (Reader.list graphEdge),
     unused "dependencies" .required (Reader.list .text),
     unused "features" .defaulted (Reader.list .text)] ()

def graph : Reader Unit :=
  .record "Resolve"
    [unused "nodes" .required (Reader.list graphNode),
     unused "root" .nullable (Reader.optional .text)] ()

def workspace : Reader Workspace :=
  .record "Metadata"
    [kept "packages" .required (Reader.list package) fun packages w => { w with packages },
     unused "workspace_members" .required (Reader.list .text),
     unused "workspace_default_members" .defaulted (Reader.optional (.list .text)),
     unused "resolve" .nullable (Reader.optional graph),
     kept "workspace_root" .required Reader.path fun root w => { w with root := ⟨root⟩ },
     unused "target_directory" .required Reader.path,
     kept "metadata" .defaulted Reader.any fun metadata w => { w with metadata },
     unused "version" .required Reader.count]
    ⟨[], ⟨""⟩, .null⟩

end Description

namespace Workspace

/-- The workspace that a run of the build tool describes. -/
def ofRun (run : ToolRun) : Except DescriptionError Workspace := do
  if !run.succeeded then throw (.toolFailed run.errors)
  match (Text.lines run.output).find? fun line => line.toList.head? = some '\x7b' with
  | none => throw .noDocument
  | some line => (Description.workspace.parse line).mapError .malformed

end Workspace

end KitSurface
