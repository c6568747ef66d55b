import KitSurface.Options
import KitSurface.Serialized.DriverModel
import KitSurface.Serialized.Record
/-!
Settings: what a manifest says about the surface of a build. They name a context, a driver model or
both, and options; the context of a build follows from them and from an override. In JSON the options
are a table of the toggles and the version, in which every key may be left out.
-/

namespace KitSurface

/-! ## Options in JSON -/

namespace Version

def toJson (v : Version) : Json :=
  .string v.text

def ofJson : Json → Decoded Version
  | .string s => (parse s).mapError .version
  | other => .error (.invalidType other "a string")

end Version

namespace Options

def toggleField (t : Toggle) : RecordField Options :=
  .kept t.key Json.toBool fun on draft => draft.set t on

def versionField : RecordField Options :=
  .kept spbCxVersionKey Version.ofJson fun version draft => { draft with spbCxVersion := version }

/-- An options table. What it leaves out stays at its default. -/
def form : RecordForm Options Options where
  title := "SurfaceOptions"
  fields := Toggle.all.map toggleField ++ [versionField]
  blank := default
  ignoresUnknown := false
  allowsShort := true
  finish := .ok

def ofJson (value : Json) : Decoded Options :=
  form.ofJson value

def toJson (o : Options) : Json :=
  .ofMembers ((Toggle.all.map fun t => (t.key, Json.bool (o.isOn t))) ++
    [(spbCxVersionKey, o.spbCxVersion.toJson)])

end Options

/-! ## Settings of a build -/

structure Settings where
  context : Option BuildContext := none
  driverModel : Option DriverModel := none
  options : Options := .default
  deriving DecidableEq, Repr

namespace Settings

/-- A settings table. What it leaves out stays at its default. -/
def form : RecordForm Settings Settings where
  title := "WdkSurface"
  fields :=
    [.kept "build-context" (Json.toOption BuildContext.ofJson) fun context draft =>
      { draft with context },
     .kept "driver-model" (Json.toOption DriverModel.ofJson) fun driverModel draft =>
      { draft with driverModel },
     .kept "options" Options.ofJson fun options draft => { draft with options }]
  blank := {}
  ignoresUnknown := false
  allowsShort := true
  finish := .ok

def ofJson (value : Json) : Decoded Settings :=
  form.ofJson value

def toJson (s : Settings) : Json :=
  .ofMembers
    [("build-context", (s.context.map BuildContext.toJson).getD .null),
     ("driver-model", (s.driverModel.map DriverModel.toJson).getD .null),
     ("options", s.options.toJson)]

end Settings

/-- Why settings do not give a build context. -/
inductive ResolveError where
  /-- Neither a context nor a driver model is named. -/
  | missing
  /-- The context is not the one that the driver model builds in. -/
  | conflicting (context modelContext : BuildContext)
  /-- The override names no context. -/
  | invalidOverride (error : ContextError)
  deriving DecidableEq, Repr

namespace ResolveError

def message : ResolveError → String
  | missing => ContextError.missing.message
  | conflicting context modelContext =>
    "build context `" ++ context.name ++ "` contradicts the driver model, which builds in the `" ++
      modelContext.name ++ "` context"
  | invalidOverride error => error.message

end ResolveError

namespace Settings

/-- The context that is asked for: that of an override which is not blank, and otherwise the one
that the settings name. -/
def requestedContext (s : Settings) (override : Option String) :
    Except ResolveError (Option BuildContext) :=
  match (override.map Text.trim).filter fun text => text ≠ "" with
  | some text => ((BuildContext.parse text).mapError .invalidOverride).map some
  | none => .ok s.context

/-- The context of a build: the one that is asked for, which must agree with the driver model, or
the one of the driver model. -/
def resolveContext (s : Settings) (override : Option String) :
    Except ResolveError BuildContext := do
  match ← s.requestedContext override, s.driverModel.map DriverModel.context with
  | some context, some modelContext =>
    if context = modelContext then return context
    else throw (.conflicting context modelContext)
  | some context, none => return context
  | none, some modelContext => return modelContext
  | none, none => throw .missing

end Settings

end KitSurface
