import KitSurface.Context
import KitSurface.Text.Basic
/-!
Driver models. A driver is built on the plain driver model or on one of two frameworks, and a
framework is pinned by its version numbers. Each model belongs to one build context.
-/

namespace KitSurface

inductive Framework where
  | kmdf
  | umdf
  deriving DecidableEq, Repr

/-- The version numbers that pin a framework: the major version, the minor version to build
against, and the least minor version that must be there at run time. -/
structure FrameworkPin where
  major : UInt8
  target : UInt8
  minimum : Option UInt8
  deriving DecidableEq, Repr

/-- The model that a driver is built on. -/
inductive DriverModel where
  | wdm
  | framework (kind : Framework) (pin : FrameworkPin)
  deriving DecidableEq, Repr

namespace Framework

/-- The name of a framework in lower case, as directories and keys write it. -/
def name : Framework → String
  | kmdf => "kmdf"
  | umdf => "umdf"

/-- The name of a framework in upper case, as definitions and tags write it. -/
def tag : Framework → String
  | kmdf => "KMDF"
  | umdf => "UMDF"

/-- The context whose drivers use the framework. -/
def context : Framework → BuildContext
  | kmdf => .kernelMode
  | umdf => .umdf

/-- The name that reports give to a pin of this framework. -/
def pinTitle : Framework → String
  | kmdf => "KmdfConfig"
  | umdf => "UmdfConfig"

end Framework

namespace FrameworkPin

def directory (kind : Framework) (pin : FrameworkPin) : String :=
  "wdf/" ++ kind.name ++ "/" ++ Nat.repr pin.major.toNat ++ "." ++ Nat.repr pin.target.toNat

/-- A pin with the names of its numbers, as error messages show it. -/
def description (kind : Framework) (pin : FrameworkPin) : String :=
  let n := kind.name
  kind.pinTitle ++ " \x7b " ++ n ++ "_version_major: " ++ Nat.repr pin.major.toNat ++
    ", target_" ++ n ++ "_version_minor: " ++ Nat.repr pin.target.toNat ++
    ", minimum_" ++ n ++ "_version_minor: " ++
    (match pin.minimum with
      | none => "None"
      | some minimum => "Some(" ++ Nat.repr minimum.toNat ++ ")") ++ " \x7d"

end FrameworkPin

namespace DriverModel

def context : DriverModel → BuildContext
  | wdm => .kernelMode
  | framework kind _ => kind.context

def description : DriverModel → String
  | wdm => "Wdm"
  | framework .kmdf pin => "Kmdf(" ++ pin.description .kmdf ++ ")"
  | framework .umdf pin => "Umdf(" ++ pin.description .umdf ++ ")"

/-- The symbol of the function table of the pinned framework. -/
def functionTable? : DriverModel → Option String
  | wdm => none
  | framework _ pin =>
    some ("WdfFunctions_" ++ Text.twoDigits pin.major.toNat ++ "0" ++
      Text.twoDigits pin.target.toNat)

end DriverModel

end KitSurface
