import KitSurface.Config.Basic
/-!
What a build tells the compiler and the build tool. The preprocessor definitions are those of its
architecture, that of kernel mode, and those of its driver model, in this order. The directives are
lines that declare which settings a build can have, and lines that set those of a build.
-/

namespace KitSurface

/-! ## Definitions -/

namespace Definition

def flag (name : String) : Definition :=
  ⟨name, none⟩

def number (name : String) (n : Nat) : Definition :=
  ⟨name, some (Nat.repr n)⟩

def argument (d : Definition) : String :=
  "--define-macro=" ++ d.name ++
    (match d.value with
      | some value => "=" ++ value
      | none => "")

end Definition

open Definition

namespace Architecture

/-- The definitions of an architecture. -/
def definitions : Architecture → List Definition
  | amd64 => [flag "_WIN64", flag "_AMD64_", flag "AMD64"]
  | arm64 => [flag "_ARM64_", flag "ARM64", number "_USE_DECLSPECS_FOR_SAL" 1, flag "STD_CALL"]

end Architecture

namespace BuildContext

/-- The definition of kernel mode. -/
def definitions (c : BuildContext) : List Definition :=
  if c.isKernelMode then [flag kernelModeDefinition] else []

end BuildContext

namespace DriverModel

/-- The definitions of a driver model. From its second version on, the user-mode framework asks
for wide characters and the status codes of the kernel. -/
def definitions : DriverModel → List Definition
  | wdm => []
  | framework .kmdf pin =>
    [number BuildContext.kmdfMajorDefinition pin.major.toNat,
     number "KMDF_VERSION_MINOR" pin.target.toNat] ++
    (pin.minimum.map fun m => number "KMDF_MINIMUM_VERSION_REQUIRED" m.toNat).toList
  | framework .umdf pin =>
    [number BuildContext.umdfMajorDefinition pin.major.toNat,
     number "UMDF_VERSION_MINOR" pin.target.toNat,
     flag "_ATL_NO_WIN_SUPPORT",
     number "WIN32_LEAN_AND_MEAN" 1] ++
    (pin.minimum.map fun m => number "UMDF_MINIMUM_VERSION_REQUIRED" m.toNat).toList ++
    (if 2 ≤ pin.major.toNat then
      [flag "UMDF_USING_NTSTATUS", flag "_UNICODE", flag "UNICODE"]
     else [])

end DriverModel

namespace Config

/-- The definitions of a build. -/
def definitions (c : Config) : List Definition :=
  c.architecture.definitions ++ c.context.definitions ++
    (c.driverModel.map DriverModel.definitions).getD []

end Config

/-! ## Directives -/

namespace Directive

def contextSetting : String := "wdk_surface_context"

def groupSetting : String := "wdk_surface_group"

/-- A text between double quotes. -/
def quoted (text : String) : String :=
  "\"" ++ text ++ "\""

/-- The line that declares the values of a setting. -/
def declare (setting : String) (values : List String) : String :=
  "cargo::rustc-check-cfg=cfg(" ++ setting ++ ", values(" ++
    ", ".intercalate (values.map quoted) ++ "))"

def assign (setting value : String) : String :=
  "cargo::rustc-cfg=" ++ setting ++ "=" ++ quoted value

/-- The lines that declare every value of every setting. -/
def declarations : List String :=
  [declare contextSetting (BuildContext.all.map BuildContext.name),
   declare groupSetting (Group.all.map Group.name)]

/-- The line that asks for another run when a file changes. -/
def rerunOnFile (p : Path) : String :=
  "cargo::rerun-if-changed=" ++ p.text

/-- The line that asks for another run when a variable changes. -/
def rerunOnVariable (name : String) : String :=
  "cargo::rerun-if-env-changed=" ++ name

end Directive

namespace Config

/-- The lines that set the context and the selected groups of a build. -/
def settingLines (c : Config) : List String :=
  Directive.assign Directive.contextSetting c.context.name ::
    c.surface.groups.map fun g => Directive.assign Directive.groupSetting g.name

end Config

end KitSurface
