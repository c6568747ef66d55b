import KitSurface.Context
import KitSurface.DriverModel
import KitSurface.Serialized.Record
/-!
Contexts, architectures and driver models in JSON. A driver model is a table with a tag: the tag
says which model it is, and the rest of the table pins the framework of that model.
-/

namespace KitSurface

namespace BuildContext

def toJson (c : BuildContext) : Json :=
  .string c.name

/-- Reads a context from its name; other spellings do not count here. -/
def ofJson (value : Json) : Decoded BuildContext :=
  value.toVariant name all

end BuildContext

namespace Architecture

def toJson (a : Architecture) : Json :=
  .string a.name

def ofJson (value : Json) : Decoded Architecture :=
  value.toVariant name [amd64, arm64]

end Architecture

namespace FrameworkPin

/-- A pin of which some numbers are read. A minimum that was given may be null. -/
structure Draft where
  major : Option UInt8 := none
  target : Option UInt8 := none
  minimum : Option UInt8 := none

def majorKey (kind : Framework) : String := kind.name ++ "-version-major"

/-- The key of the minor version to build against. -/
def targetKey (kind : Framework) : String := "target-" ++ kind.name ++ "-version-minor"

/-- The key of the least minor version. -/
def minimumKey (kind : Framework) : String := "minimum-" ++ kind.name ++ "-version-minor"

/-- The table of a pin. Only the least minor version may be left out. -/
def form (kind : Framework) : RecordForm Draft FrameworkPin where
  title := kind.pinTitle
  fields :=
    [.kept (majorKey kind) Json.toByte fun n draft => { draft with major := some n },
     .kept (targetKey kind) Json.toByte fun n draft => { draft with target := some n },
     .kept (minimumKey kind) (Json.toOption Json.toByte) fun n draft => { draft with minimum := n }]
  blank := {}
  ignoresUnknown := false
  allowsShort := false
  finish draft := return {
    major := ← required (majorKey kind) draft.major
    target := ← required (targetKey kind) draft.target
    minimum := draft.minimum }

def ofJson (kind : Framework) (value : Json) : Decoded FrameworkPin :=
  (form kind).ofJson value

def members (kind : Framework) (pin : FrameworkPin) : List (String × Json) :=
  [(majorKey kind, .integer pin.major.toNat), (targetKey kind, .integer pin.target.toNat),
   (minimumKey kind, match pin.minimum with
     | some minimum => .integer minimum.toNat
     | none => .null)]

def toJson (kind : Framework) (pin : FrameworkPin) : Json :=
  .ofMembers (pin.members kind)

end FrameworkPin

namespace DriverModel

def tagKey : String := "driver-type"

/-- The models without their pins, in the order that messages list them. -/
def kinds : List (Option Framework) :=
  [none, some .kmdf, some .umdf]

def kindTag : Option Framework → String
  | none => "WDM"
  | some kind => kind.tag

def readTag : Json → Decoded (Option Framework)
  | .string tag => Json.variant kindTag kinds tag
  | other => .error (.invalidType other "variant identifier")

/-- Reads the model of a tag from the other members. The plain model looks at none of them. -/
def ofRest (members : List (String × Json)) : Option Framework → Decoded DriverModel
  | none => .ok wdm
  | some kind => (FrameworkPin.form kind |>.ofMembers members).map (framework kind)

/-- Reads the model of a tag from the items after it. -/
def ofItems (items : List Json) : Option Framework → Decoded DriverModel
  | none =>
    if items.isEmpty then .ok wdm
    else .error (.invalidLength items.length (elementCount 0 ++ " in sequence"))
  | some kind => (FrameworkPin.form kind |>.ofItems .afterTag items).map (framework kind)

def ofJson : Json → Decoded DriverModel
  | .object members =>
    match members.lookup tagKey with
    | none => .error (.missingField tagKey)
    | some tag => do ofRest (members.filter fun m => m.1 ≠ tagKey) (← readTag tag)
  | .array [] => .error (.missingField tagKey)
  | .array (tag :: items) => do ofItems items (← readTag tag)
  | other => .error (.invalidType other "internally tagged enum DriverConfig")

/-- The table of a driver model: its tag, and the numbers that pin its framework. -/
def toJson : DriverModel → Json
  | wdm => .ofMembers [(tagKey, .string (kindTag none))]
  | framework kind pin =>
    .ofMembers ((tagKey, .string (kindTag (some kind))) :: pin.members kind)

end DriverModel

end KitSurface
