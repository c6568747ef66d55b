import KitSurface.Version
/-!
The options of a declaration surface: seven toggles for groups whose coverage is partial, and the
version of one class extension. A toggle widens or narrows the coverage of a context that a group
is admitted to, and never admits a group to another one.
-/

namespace KitSurface

/-- The toggles, in the order that messages list them. -/
inductive Toggle where
  | hidExtendedHeaders
  | hidSpiCx
  | kernelSafeInteger
  | kernelSafeString
  | powerFramework
  | storage
  | usbDeviceEmulation
  deriving DecidableEq, Repr

namespace Toggle

def all : List Toggle :=
  [hidExtendedHeaders, hidSpiCx, kernelSafeInteger, kernelSafeString, powerFramework, storage,
   usbDeviceEmulation]

def key : Toggle → String
  | hidExtendedHeaders => "hid-extended-headers"
  | hidSpiCx => "hid-spi-cx"
  | kernelSafeInteger => "kernel-safe-integer"
  | kernelSafeString => "kernel-safe-string"
  | powerFramework => "power-framework"
  | storage => "storage"
  | usbDeviceEmulation => "usb-device-emulation"

/-- The extended headers and the class extension of human interface devices are off unless
asked for; all else is on. -/
def default : Toggle → Bool
  | hidExtendedHeaders | hidSpiCx => false
  | _ => true

end Toggle

/-- The options of a surface. -/
structure Options where
  hidExtendedHeaders : Bool := Toggle.default .hidExtendedHeaders
  hidSpiCx : Bool := Toggle.default .hidSpiCx
  kernelSafeInteger : Bool := Toggle.default .kernelSafeInteger
  kernelSafeString : Bool := Toggle.default .kernelSafeString
  powerFramework : Bool := Toggle.default .powerFramework
  storage : Bool := Toggle.default .storage
  usbDeviceEmulation : Bool := Toggle.default .usbDeviceEmulation
  /-- The version of the class extension of the serial peripheral bus. -/
  spbCxVersion : Version := ⟨1, 1⟩
  deriving DecidableEq, Repr

namespace Options

/-- The options where nothing is configured. -/
def default : Options := {}

def isOn (o : Options) : Toggle → Bool
  | .hidExtendedHeaders => o.hidExtendedHeaders
  | .hidSpiCx => o.hidSpiCx
  | .kernelSafeInteger => o.kernelSafeInteger
  | .kernelSafeString => o.kernelSafeString
  | .powerFramework => o.powerFramework
  | .storage => o.storage
  | .usbDeviceEmulation => o.usbDeviceEmulation

def set (o : Options) (toggle : Toggle) (on : Bool) : Options :=
  match toggle with
  | .hidExtendedHeaders => { o with hidExtendedHeaders := on }
  | .hidSpiCx => { o with hidSpiCx := on }
  | .kernelSafeInteger => { o with kernelSafeInteger := on }
  | .kernelSafeString => { o with kernelSafeString := on }
  | .powerFramework => { o with powerFramework := on }
  | .storage => { o with storage := on }
  | .usbDeviceEmulation => { o with usbDeviceEmulation := on }

/-- The key of the version in an options table. -/
def spbCxVersionKey : String := "spb-cx-version"

theorem isOn_set (o : Options) (t u : Toggle) (on : Bool) :
    (o.set t on).isOn u = if u = t then on else o.isOn u := by
  cases t <;> cases u <;> rfl

theorem spbCxVersion_set (o : Options) (t : Toggle) (on : Bool) :
    (o.set t on).spbCxVersion = o.spbCxVersion := by
  cases t <;> rfl

theorem isOn_default (t : Toggle) : default.isOn t = t.default := by
  cases t <;> rfl

theorem ext_isOn {o p : Options} (on : ∀ t, o.isOn t = p.isOn t)
    (version : o.spbCxVersion = p.spbCxVersion) : o = p := by
  cases o; cases p
  simp only [mk.injEq]
  exact ⟨on .hidExtendedHeaders, on .hidSpiCx, on .kernelSafeInteger, on .kernelSafeString,
    on .powerFramework, on .storage, on .usbDeviceEmulation, version⟩

end Options

end KitSurface
