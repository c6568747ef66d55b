import KitSurface.Text.Basic
/-!
What a build is for. Its context is the kind of component that it compiles: one of three, read from
its name or from preprocessor definitions. Rules of inclusion say which contexts a group of headers or
a supplemental type is admitted to. The architecture has names of its own in the kit, in the build
tool and in a serialized configuration. Main statement: a context is read back from its name
(`parse_name`).
-/

namespace KitSurface

/-! ## Contexts -/

/-- The kinds of component; exactly one is active in a build. -/
inductive BuildContext where
  /-- A driver in kernel mode. -/
  | kernelMode
  /-- A driver in user mode, on the user-mode driver framework. -/
  | umdf
  /-- A component in user mode without a driver framework. -/
  | userMode
  deriving DecidableEq, Repr

/-- Why there is no build context. -/
inductive ContextError where
  /-- Nothing names a context. -/
  | missing
  /-- The definitions select more than one context. -/
  | conflicting (definitions : List String)
  /-- The text names no context. -/
  | unknown (value : String)
  deriving DecidableEq, Repr

namespace ContextError

def message : ContextError → String
  | missing =>
    "no build context was supplied. Set `build-context` (or `driver-model`) in a " ++
    "`metadata.wdk-surface` section, or set the WDK_SURFACE_BUILD_CONTEXT environment variable"
  | conflicting definitions =>
    "mutually exclusive build contexts were supplied simultaneously: [" ++
    ", ".intercalate (definitions.map fun name => "\"" ++ name ++ "\"") ++ "]"
  | unknown value =>
    "unrecognized build context `" ++ value ++ "`. Expected one of: kernel-mode, umdf, user-mode"

end ContextError

/-- A preprocessor definition: a name, and a value for one that has one. -/
structure Definition where
  name : String
  value : Option String
  deriving DecidableEq, Repr

namespace BuildContext

/-- Every context, in the order that reports use. -/
def all : List BuildContext :=
  [kernelMode, umdf, userMode]

def name : BuildContext → String
  | kernelMode => "kernel-mode"
  | umdf => "umdf"
  | userMode => "user-mode"

def isKernelMode (c : BuildContext) : Bool :=
  c = kernelMode

/-- The context builds drivers on the user-mode framework. -/
def isUmdf (c : BuildContext) : Bool :=
  c = umdf

/-- A driver framework is available in kernel mode and under UMDF. -/
def usesFramework (c : BuildContext) : Bool :=
  c.isKernelMode || c.isUmdf

def ofSpelling? (spelling : String) : Option BuildContext :=
  if spelling ∈ ["kernel-mode", "kernel", "km"] then some kernelMode
  else if spelling ∈ ["umdf", "user-mode-driver-framework"] then some umdf
  else if spelling ∈ ["user-mode", "user", "um"] then some userMode
  else none

/-- Reads a spelling of a context; blanks around it and the case of ASCII letters do not count. -/
def parse (text : String) : Except ContextError BuildContext :=
  match ofSpelling? ((Text.trim text).map Char.toLower) with
  | some context => .ok context
  | none => .error (.unknown text)

theorem ofSpelling?_name (c : BuildContext) :
    ofSpelling? ((Text.trim c.name).map Char.toLower) = some c := by
  cases c <;> decide +kernel

theorem parse_name (c : BuildContext) : parse c.name = .ok c := by
  simp only [parse, ofSpelling?_name]

def kernelModeDefinition : String := "_KERNEL_MODE"

/-- A definition of every compilation against the kernel-mode framework. -/
def kmdfMajorDefinition : String := "KMDF_VERSION_MAJOR"

/-- A definition of every compilation against the user-mode framework. -/
def umdfMajorDefinition : String := "UMDF_VERSION_MAJOR"

/-- The context that definitions select: either kernel definition selects kernel mode, the one of
the user-mode framework selects that framework, and none of them selects plain user mode.
Definitions of both kinds are refused. -/
def ofDefinitions (definitions : List Definition) : Except ContextError BuildContext :=
  let names := definitions.map (·.name)
  let kernel := names.filter fun n => n = kernelModeDefinition || n = kmdfMajorDefinition
  let framework := names.filter fun n => n = umdfMajorDefinition
  match kernel, framework with
  | [], [] => .ok userMode
  | _ :: _, [] => .ok kernelMode
  | [], _ :: _ => .ok umdf
  | _ :: _, _ :: _ => .error (.conflicting (kernel ++ framework))

end BuildContext

/-! ## Inclusion rules -/

/-- The contexts that something is admitted to. -/
inductive Inclusion where
  | always
  | kernelModeOnly
  | nonKernelModeOnly
  | outsideUmdf
  | frameworkOnly
  deriving DecidableEq, Repr

namespace Inclusion

def admits (rule : Inclusion) (c : BuildContext) : Bool :=
  match rule with
  | always => true
  | kernelModeOnly => c.isKernelMode
  | nonKernelModeOnly => !c.isKernelMode
  | outsideUmdf => !c.isUmdf
  | frameworkOnly => c.usesFramework

/-- The name of a rule in reports. -/
def title : Inclusion → String
  | always => "Always"
  | kernelModeOnly => "KernelModeOnly"
  | nonKernelModeOnly => "NonKernelModeOnly"
  | outsideUmdf => "OutsideUserModeDriverFramework"
  | frameworkOnly => "DriverFrameworkOnly"

end Inclusion

/-! ## Architectures -/

/-- The processor architectures that a build can target. -/
inductive Architecture where
  | amd64
  | arm64
  deriving DecidableEq, Repr

namespace Architecture

def name : Architecture → String
  | amd64 => "Amd64"
  | arm64 => "Arm64"

def kitName : Architecture → String
  | amd64 => "x64"
  | arm64 => "ARM64"

/-- The architecture that a build tool's target name stands for. -/
def ofTarget? (target : String) : Option Architecture :=
  if target = "x86_64" then some amd64
  else if target = "aarch64" then some arm64
  else none

end Architecture

end KitSurface
