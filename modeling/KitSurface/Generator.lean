import KitSurface.HeaderSearch
import KitSurface.Config.Definitions
import KitSurface.Surface.Pass
/-!
The set-up of the binding generator: the arguments that it is called with for a configuration, for
the whole surface or for the pass of one subsystem. The generator itself and the files that it writes
are not part of this.
-/

namespace KitSurface.Generator

def repeated (option : String) (values : List String) : List String :=
  values.flatMap fun value => [option, value]

/-- The items that no pass generates: deprecated functions, and types whose bit-fields would be
placed wrongly. -/
def blockedItems : List String :=
  ["ExAllocatePoolWithTag", "ExAllocatePoolWithQuotaTag", "ExAllocatePoolWithTagPriority",
   "ExAllocatePool", ".*MCG_CAP(?:__bindgen.*)?", ".*WHEA_XPF_MCA_SECTION",
   ".*WHEA_ARM_BUS_ERROR(?:__bindgen.*)?", ".*WHEA_ARM_PROCESSOR_ERROR",
   ".*WHEA_ARM_CACHE_ERROR"]

/-- The handle types, which have no contents of their own. -/
def handleTypes : List String :=
  ["POHANDLE", "PO_EPM_HANDLE", "WDFDRIVER", "WDFDEVICE", "WDFWMIPROVIDER", "WDFWMIINSTANCE",
   "WDFQUEUE", "WDFREQUEST", "WDFFILEOBJECT", "WDFDPC", "WDFTIMER", "WDFWORKITEM", "WDFINTERRUPT",
   "WDFWAITLOCK", "WDFSPINLOCK", "WDFMEMORY", "WDFLOOKASIDE", "WDFIOTARGET", "WDFUSBDEVICE",
   "WDFUSBINTERFACE", "WDFUSBPIPE", "WDFDMAENABLER", "WDFDMATRANSACTION", "WDFCOMMONBUFFER",
   "WDFKEY", "WDFSTRING", "WDFCOLLECTION", "WDFCHILDLIST", "WDFIORESREQLIST", "WDFIORESLIST",
   "WDFCMRESLIST", "WDFCOMPANION", "WDFTASKQUEUE", "WDFCOMPANIONTARGET", "HKEY", "HMETAFILE",
   "HINSTANCE", "HRGN", "HRSRC", "HSPRITE", "HLSURF", "HSTR", "HTASK", "HWINSTA", "HKL", "HWND",
   "HHOOK", "HEVENT", "HGDIOBJ", "HACCEL", "HBITMAP", "HBRUSH", "HCOLORSPACE", "HDC", "HGLRC",
   "HDESK", "HENHMETAFILE", "HFONT", "HICON", "HMENU", "HPALETTE", "HPEN", "HWINEVENTHOOK",
   "HMONITOR", "HUMPD", "HCURSOR", "DPI_AWARENESS_CONTEXT", "HTOUCHINPUT",
   "HSYNTHETICPOINTERDEVICE", "HRAWINPUT", "HGESTUREINFO", "HSAVEDUILANGUAGES"].map (· ++ "__")

/-- The flags that make the compiler read the headers of the kit. -/
def compilerFlags : List String :=
  ["-fms-compatibility", "-fms-extensions", "-fdelayed-template-parsing",
   "--warn-=no-nonportable-include-path", "--warn-=no-pragma-pack",
   "--warn-=no-ignored-attributes", "--warn-=no-ignored-pragma-intrinsic",
   "--warn-=no-visibility", "--warn-=no-microsoft-anon-tag",
   "--warn-=no-microsoft-enum-forward-reference", "--warn-=no-deprecated-declarations",
   "--warn-=no-invalid-token-paste"]

/-- The arguments of the compiler: include paths, definitions and flags. -/
def compilerArguments (c : Config) (includePaths : List Path) : List String :=
  includePaths.map (fun p => "--include-directory=" ++ p.text) ++
    c.definitions.map Definition.argument ++ compilerFlags

/-- The patterns of the files that a pass takes; a run without a pass has none. -/
def allowedFiles (s : Surface) (pass : Option Subsystem) : List String :=
  ((pass.map s.allowed).getD []).map FilePattern.text

/-- The patterns of the files that a pass leaves to others. -/
def blockedFiles (s : Surface) (pass : Option Subsystem) : List String :=
  ((pass.map s.blocked).getD []).map FilePattern.text

/-- The arguments of the generator for a surface and a configuration. -/
def arguments (s : Surface) (c : Config) (tree : FileTree) (pass : Option Subsystem) :
    Except ConfigError (List String) := do
  let includePaths ← c.includePaths tree
  return repeated "--blocklist-item" blockedItems ++
    repeated "--blocklist-file" (blockedFiles s pass) ++
    repeated "--opaque-type" handleTypes ++
    repeated "--allowlist-file" (allowedFiles s pass) ++
    ["--default-enum-style", "moduleconsts", "--with-derive-default", "--use-core", "--generate",
     "functions,types,vars,methods,constructors,destructors", "--generate-cstr",
     "--no-include-path-detection", "--rust-target", "1.82.0", "--formatter", "prettyplease",
     "--no-default", ".*tagMONITORINFOEXA", "--must-use-type", "NTSTATUS", "--must-use-type",
     "HRESULT", "--"] ++
    compilerArguments c includePaths

/-- A run of the generator: the name of its output, the subsystem that it is for, unless it is for
the whole surface, and its arguments. -/
structure Run where
  name : String
  pass : Option Subsystem
  arguments : List String
  deriving Repr

def run (c : Config) (tree : FileTree) (name : String) (pass : Option Subsystem) :
    Except CheckError Run :=
  match arguments c.surface c tree pass with
  | .ok args => .ok ⟨name, pass, args⟩
  | .error e => .error (.config e)

/-- The runs of the generator for a configuration, each with the arguments that it is called with: types
and constants of the whole surface, and one run for each selected subsystem. What the generator then
makes of them, and the file that it writes for each, is left out. -/
def runs (c : Config) (tree : FileTree) : Except CheckError (List Run) := do
  let types ← run c tree "types" none
  let constants ← run c tree "constants" none
  let passes ← c.surface.subsystems.mapM fun sub => run c tree sub.name (some sub)
  return types :: constants :: passes

end KitSurface.Generator
