import KitSurface.Context
import KitSurface.FileTree.Basic
import KitSurface.Surface.Basic
import KitSurface.Workspace.Settings
/-!
Build configurations: where the kit is, what is built, and which surface the build sees. A
configuration is consistent if its driver model, if it has one, builds in its context. In JSON it is
read from a table in which other members do not count; the driver model and the version of the
development kit may be left out.
-/

namespace KitSurface

/-! ## Configurations -/

/-- The configuration of a build. -/
structure Config where
  /-- The root of the kit. -/
  root : Path
  architecture : Architecture
  context : BuildContext
  driverModel : Option DriverModel := none
  options : Options := .default
  /-- The version of the development kit; the newest one is used where none is given. -/
  sdkVersion : Option String := none
  deriving DecidableEq, Repr

/-- Why a build cannot be configured. -/
inductive ConfigError where
  | file (error : FileError)
  | directoryNotFound (directory : String)
  | settings (error : SettingsError)
  /-- The context of the build cannot be resolved. -/
  | unresolved (error : ResolveError)
  /-- The kit is not found. -/
  | rootNotFound
  /-- The build tool does not describe the workspace. -/
  | description (text : String)
  /-- The driver model builds in another context. -/
  | conflictingModel (context : BuildContext) (model : DriverModel)
  deriving Repr

namespace ConfigError

/-- What is said where the kit is not found. -/
def rootNotFoundText : String :=
  "WDKContentRoot should be able to be detected. Ensure that the WDK is installed, or that " ++
  "the environment setup scripts in the eWDK have been run."

def message : ConfigError → String
  | file error => error.message
  | directoryNotFound directory => "cannot find directory: " ++ directory
  | settings error => error.message
  | unresolved error => error.message
  | rootNotFound => rootNotFoundText
  | description text => text
  | conflictingModel context model =>
    "the " ++ model.description ++ " driver model builds in the `" ++ model.context.name ++
      "` context, but the `" ++ context.name ++ "` context is configured"

end ConfigError

namespace Config

/-- Refuses a configuration whose driver model builds in another context. -/
def validate (c : Config) : Except ConfigError Unit :=
  match c.driverModel with
  | some model =>
    if model.context = c.context then .ok () else .error (.conflictingModel c.context model)
  | none => .ok ()

def surface (c : Config) : Surface :=
  ⟨c.context, c.options⟩

/-- The symbol of the function table of the framework that is pinned. -/
def functionTable? (c : Config) : Option String :=
  c.driverModel.bind DriverModel.functionTable?

end Config

/-! ## Configurations in JSON -/

namespace Config

/-- A configuration of which some fields are read. -/
structure Draft where
  root : Option Path := none
  architecture : Option Architecture := none
  context : Option BuildContext := none
  driverModel : Option DriverModel := none
  options : Option Options := none
  sdkVersion : Option String := none

/-- The key of the root of the kit. -/
def rootKey : String := "wdk_content_root"
def architectureKey : String := "cpu_architecture"
def contextKey : String := "build_context"
def driverModelKey : String := "driver_config"
def optionsKey : String := "options"
/-- The key of the version of the development kit. -/
def sdkVersionKey : String := "windows_sdk_version"

def form : RecordForm Draft Config where
  title := "Config"
  fields :=
    [.kept rootKey (Json.toText "path string") fun text draft => { draft with root := some ⟨text⟩ },
     .kept architectureKey Architecture.ofJson fun a draft => { draft with architecture := some a },
     .kept contextKey BuildContext.ofJson fun c draft => { draft with context := some c },
     .kept driverModelKey (Json.toOption DriverModel.ofJson) fun driverModel draft =>
      { draft with driverModel },
     .kept optionsKey Options.ofJson fun o draft => { draft with options := some o },
     .kept sdkVersionKey (Json.toOption (Json.toText "a string")) fun sdkVersion draft =>
      { draft with sdkVersion }]
  blank := {}
  ignoresUnknown := true
  allowsShort := false
  finish draft := return {
    root := ← required rootKey draft.root
    architecture := ← required architectureKey draft.architecture
    context := ← required contextKey draft.context
    driverModel := draft.driverModel
    options := ← required optionsKey draft.options
    sdkVersion := draft.sdkVersion }

def ofJson (value : Json) : Decoded Config :=
  form.ofJson value

/-- The table of a configuration with every key. -/
def toJson (c : Config) : Json :=
  .ofMembers
    [(rootKey, .string c.root.text), (architectureKey, c.architecture.toJson),
     (contextKey, c.context.toJson),
     (driverModelKey, (c.driverModel.map DriverModel.toJson).getD .null),
     (optionsKey, c.options.toJson), (sdkVersionKey, .ofText? c.sdkVersion)]

end Config

end KitSurface
