import KitSurface.Config.Definitions
import KitSurface.Kit
import KitSurface.Workspace.Description
/-!
Build scripts. A script finds the manifest of the build, reads the settings of its workspace, prints
directives for the build tool and hands the configuration of the build on. What a script prints is a
list of lines, and the lines printed before a failure are kept.
-/

namespace KitSurface

/-- A condition that every build is promised and that does not hold. -/
inductive BuildFault where
  | outputDirectoryUnset
  | lockFileNotFound
  | rootNotFound
  | targetUnset
  | targetUnsupported (name : String)
  deriving DecidableEq, Repr

namespace BuildFault

def message : BuildFault → String
  | outputDirectoryUnset =>
    "Cargo should have set the OUT_DIR environment variable when executing build.rs: NotPresent"
  | lockFileNotFound =>
    "a Cargo.lock file should exist in the same directory as the top-level Cargo.toml"
  | rootNotFound => ConfigError.rootNotFoundText
  | targetUnset =>
    "Cargo should have set the CARGO_CFG_TARGET_ARCH environment variable when executing " ++
    "build.rs: NotPresent"
  | targetUnsupported name =>
    "The target architecture, " ++ name ++ ", is currently not supported."

end BuildFault

/-- How a script fails: by a fault, or by an error of type `ε`. -/
inductive Failure (ε : Type) where
  | fault (f : BuildFault)
  | error (e : ε)
  deriving Repr

def Failure.map {ε ε' : Type} (f : ε → ε') : Failure ε → Failure ε'
  | fault x => fault x
  | error e => error (f e)

/-- What a script prints, and how it ends. -/
structure Script (ε α : Type) where
  lines : List String
  result : Except (Failure ε) α

namespace Script

variable {ε α β : Type}

/-- A script that prints nothing. -/
def ofResult (result : Except (Failure ε) α) : Script ε α :=
  ⟨[], result⟩

def print (lines : List String) : Script ε Unit :=
  ⟨lines, .ok ()⟩

/-- A script and, unless it fails, the one that its result leads to. -/
def andThen (first : Script ε α) (next : α → Script ε β) : Script ε β :=
  match first.result with
  | .error failure => ⟨first.lines, .error failure⟩
  | .ok a => ⟨first.lines ++ (next a).lines, (next a).result⟩

end Script

namespace Environment

/-- The variable that overrides the build context. -/
def contextVariable : String := "WDK_SURFACE_BUILD_CONTEXT"

/-- The variable with the directory that a build writes to. -/
def outputVariable : String := "OUT_DIR"

def targetVariable : String := "CARGO_CFG_TARGET_ARCH"

/-- The manifest of the whole build: the one beside the lock file in the nearest directory at or
above the output directory. -/
def topLevelManifest (env : Environment) (tree : FileTree) : Except BuildFault Path :=
  match env.get? outputVariable with
  | none => .error .outputDirectoryUnset
  | some output =>
    match (Path.mk output).ancestors.find? fun p => tree.has (p.join "Cargo.lock") with
    | some directory => .ok (directory.join "Cargo.toml")
    | none => .error .lockFileNotFound

def architecture (env : Environment) : Except BuildFault Architecture :=
  match env.get? targetVariable with
  | none => .error .targetUnset
  | some name =>
    match Architecture.ofTarget? name with
    | some a => .ok a
    | none => .error (.targetUnsupported name)

end Environment

namespace Config

/-- Configures the build of a library: checks the configuration, and prints the directives of the
build behind the check. -/
def configureLibrary (c : Config) : Script ConfigError Unit :=
  (Script.ofResult (c.validate.mapError .error)).andThen fun _ =>
    .print (Directive.declarations ++ c.settingLines)

/-- The configuration that the environment alone gives. -/
def ofEnvironment (env : Environment) (tree : FileTree) : Except BuildFault Config := do
  match Kit.detectRoot env tree with
  | none => throw .rootNotFound
  | some root => return { root, architecture := ← env.architecture, context := .kernelMode }

/-- The configuration that settings give, with an override of the context. A context that cannot be
resolved is reported even if the kit is not found either. -/
def ofSettings (s : Settings) (override : Option String) (root : Option Path)
    (architecture : Architecture) : Except ConfigError Config := do
  let context ← (s.resolveContext override).mapError .unresolved
  match root with
  | none => throw .rootNotFound
  | some root =>
    return { root, architecture, context, driverModel := s.driverModel, options := s.options }

end Config

/-- What a script works with: the environment, the files, and the build tool's description of the
workspace. -/
structure BuildHost where
  environment : Environment
  tree : FileTree
  describe : ToolRun

namespace BuildHost

/-- The lines that ask for another run of the script: one for each manifest, one for the manifest
of the build, and one for the override of the context. -/
def watchLines (manifests : List Path) (topLevel : Path) : List String :=
  manifests.map Directive.rerunOnFile ++
    [Directive.rerunOnFile topLevel, Directive.rerunOnVariable Environment.contextVariable]

def workspaceSettings (host : BuildHost) : Except ConfigError (Workspace × Settings) := do
  let workspace ← (Workspace.ofRun host.describe).mapError fun e => .description e.message
  return (workspace, ← workspace.settings.mapError .settings)

/-- Reads the configuration of a build, and asks for another run when what it was read from
changes. -/
def config (host : BuildHost) : Script ConfigError Config :=
  match host.environment.topLevelManifest host.tree with
  | .error fault => .ofResult (.error (.fault fault))
  | .ok topLevel =>
    match host.workspaceSettings with
    | .error e => .ofResult (.error (.error e))
    | .ok (workspace, settings) =>
      (Script.print (watchLines workspace.manifests topLevel)).andThen fun _ =>
        .ofResult <|
          match host.environment.architecture with
          | .error fault => .error (.fault fault)
          | .ok architecture =>
            (Config.ofSettings settings (host.environment.get? Environment.contextVariable)
              (Kit.detectRoot host.environment host.tree) architecture).mapError .error

/-- One thing that the build of a library does where others see it. -/
inductive BuildStep where
  | print (line : String)
  /-- The configuration of the build is handed on. -/
  | handOn (config : Config)

namespace BuildStep

/-- The line that a step prints. -/
def line? : BuildStep → Option String
  | print line => some line
  | handOn _ => none

def config? : BuildStep → Option Config
  | print _ => none
  | handOn config => some config

end BuildStep

/-- What the build of a library does, one step after another, and how it ends. -/
structure LibraryBuild (ε : Type) where
  steps : List BuildStep
  result : Except (Failure ε) Unit

namespace LibraryBuild

variable {ε : Type}

def lines (b : LibraryBuild ε) : List String :=
  b.steps.filterMap BuildStep.line?

/-- What the build tool gets: every line with a line feed behind it. -/
def output (b : LibraryBuild ε) : String :=
  String.join (b.lines.map (· ++ "\n"))

/-- The configurations that are handed on. -/
def configs (b : LibraryBuild ε) : List Config :=
  b.steps.filterMap BuildStep.config?

def handedOn (b : LibraryBuild ε) : Option Config :=
  b.configs.head?

end LibraryBuild

variable {ε : Type}

/-- Configures the build of a library and hands its configuration on to the script `next`. A
workspace without settings is no error: then the settings that a build can have are declared, and
nothing else. -/
def configureThen (host : BuildHost) (wrap : ConfigError → ε) (next : Config → Script ε Unit) :
    LibraryBuild ε :=
  let script := host.config
  match script.result with
  | .ok config =>
    let build := config.configureLibrary
    let steps := (script.lines ++ build.lines).map .print
    match build.result with
    | .ok _ =>
      ⟨steps ++ .handOn config :: (next config).lines.map .print, (next config).result⟩
    | .error failure => ⟨steps, .error (failure.map wrap)⟩
  | .error (.error (.settings .noSection)) =>
    ⟨(script.lines ++ Directive.declarations).map .print, .ok ()⟩
  | .error failure => ⟨script.lines.map .print, .error (failure.map wrap)⟩

/-- Configures the build of a library and hands its configuration on to a `next` that prints
nothing. -/
def buildLibrary (host : BuildHost) (wrap : ConfigError → ε) (next : Config → Except ε Unit) :
    LibraryBuild ε :=
  host.configureThen wrap fun config => .ofResult ((next config).mapError .error)

end BuildHost

end KitSurface
