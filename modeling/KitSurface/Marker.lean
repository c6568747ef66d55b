import KitSurface.Context
import KitSurface.Options
import KitSurface.Group
/-!
Markers: notes on coverage that is known to be wrong or deliberately narrow, kept beside the part
of a surface that they are about.
-/

namespace KitSurface

/-- A marker flags a defect or work to be done. -/
inductive MarkerKind where
  | fixme
  | todo
  deriving DecidableEq, Repr

/-- What a marker is about. -/
inductive MarkerScope where
  | subsystem (s : Subsystem)
  | supplements
  deriving DecidableEq, Repr

/-- A note on partial coverage, with the contexts it matters to, an index of documentation, and
the keys of the options that adjust the coverage. -/
structure Marker where
  scope : MarkerScope
  kind : MarkerKind
  inclusion : Inclusion
  note : String
  reference : Option String
  optionKeys : List String
  deriving DecidableEq, Repr

namespace MarkerKind

def tag : MarkerKind → String
  | fixme => "FIXME"
  | todo => "TODO"

end MarkerKind

namespace MarkerScope

def name : MarkerScope → String
  | subsystem s => s.name
  | supplements => "shims"

end MarkerScope

namespace Marker

/-- The documentation index of the headers for human interface devices. -/
def hidReference : String :=
  "https://learn.microsoft.com/en-us/windows-hardware/drivers/ddi/_hid/"

/-- The documentation index of the headers for storage. -/
def storageReference : String :=
  "https://learn.microsoft.com/en-us/windows-hardware/drivers/ddi/_storage/"

/-- Every marker, in the order of the surface. -/
def all : List Marker :=
  [{ scope := .subsystem .core
     kind := .fixme
     inclusion := .kernelModeOnly
     note := "ntintsafe.h, ntstrsafe.h and pepfx.h should be gated behind separate features"
     reference := none
     optionKeys := [Toggle.key .kernelSafeInteger, Toggle.key .kernelSafeString,
       Toggle.key .powerFramework] },
   { scope := .subsystem .hid
     kind := .fixme
     inclusion := .outsideUmdf
     note := "hidpddi.h and hidpi.h are not exposed by default"
     reference := some hidReference
     optionKeys := [Toggle.key .hidExtendedHeaders] },
   { scope := .subsystem .hid
     kind := .fixme
     inclusion := .outsideUmdf
     note := "HidSpiCx/1.0/hidspicx.h is not exposed by default"
     reference := some hidReference
     optionKeys := [Toggle.key .hidSpiCx] },
   { scope := .subsystem .storage
     kind := .fixme
     inclusion := .kernelModeOnly
     note := "only ntddstor.h is exposed. Additional storage APIs are pending"
     reference := some storageReference
     optionKeys := [Toggle.key .storage] },
   { scope := .subsystem .peripheralBus
     kind := .todo
     inclusion := .always
     note := "SPB headers are not gated and the SPB class extension version is pinned"
     reference := none
     optionKeys := [Options.spbCxVersionKey] },
   { scope := .subsystem .framework
     kind := .todo
     inclusion := .kernelModeOnly
     note := "WDF headers are exposed to kernel-mode builds that do not use WDF (ex. WDM)"
     reference := none
     optionKeys := [] },
   { scope := .supplements
     kind := .fixme
     inclusion := .outsideUmdf
     note := "_KGDTENTRY64 and _KIDTENTRY64 have no definition in the native headers"
     reference := none
     optionKeys := [] }]

/-- The note of a marker after its tag, with the documentation index behind it. -/
def remark (m : Marker) : String :=
  m.kind.tag ++ ": " ++ m.note ++
    (match m.reference with
      | some reference => " (" ++ reference ++ ")"
      | none => "")

/-- A marker as one line of comment. -/
def comment (m : Marker) : String :=
  "// " ++ m.remark

def text (m : Marker) : String :=
  "[" ++ m.scope.name ++ "] " ++ m.remark ++
    (if m.optionKeys.isEmpty then ""
     else " [options: " ++ ", ".intercalate m.optionKeys ++ "]")

end Marker

end KitSurface
