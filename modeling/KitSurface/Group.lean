import KitSurface.Context
import KitSurface.Options
/-!
Declaration groups: named sets of headers that a surface exposes or hides as a whole. Each of them
belongs to a subsystem of the kit. The order of the groups is the order of their headers in a surface,
and the order of the subsystems is that of their blocks.
-/

namespace KitSurface

/-! ## Subsystems -/

/-- The parts of a kit that header groups belong to. -/
inductive Subsystem where
  | core
  | hid
  | usb
  | storage
  | peripheralBus
  | ports
  | framework
  | diagnostics
  deriving DecidableEq, Repr

namespace Subsystem

def all : List Subsystem :=
  [core, hid, usb, storage, peripheralBus, ports, framework, diagnostics]

def name : Subsystem → String
  | core => "core"
  | hid => "hid"
  | usb => "usb"
  | storage => "storage"
  | peripheralBus => "peripheral-bus"
  | ports => "ports"
  | framework => "wdf"
  | diagnostics => "diagnostics"

def title : Subsystem → String
  | core => "Core"
  | hid => "Human Interface Devices"
  | usb => "Universal Serial Bus"
  | storage => "Storage and USB Device Emulation"
  | peripheralBus => "Peripheral Buses (SPB, GPIO, PWM)"
  | ports => "Parallel and Serial Ports"
  | framework => "Windows Driver Frameworks"
  | diagnostics => "Diagnostics"

def ofName? (name : String) : Option Subsystem :=
  all.find? fun s => s.name = name

end Subsystem

/-! ## Groups -/

inductive Group where
  | ntKernel
  | windows
  | kernelSafeInteger
  | kernelSafeString
  | powerFramework
  | hidClass
  | hidExtended
  | hidSpiCx
  | keyboardMouseFilter
  | virtualHid
  | usbSpec
  | usbBus
  | usbFunction
  | storage
  | usbDeviceEmulation
  | spb
  | spbCx
  | resourceHub
  | pwm
  | gpio
  | gpioClx
  | parallelPort
  | serialPort
  | wdf
  | wdfUsb
  | traceLogging
  deriving DecidableEq, Repr

namespace Group

def all : List Group :=
  [ntKernel, windows, kernelSafeInteger, kernelSafeString, powerFramework, hidClass, hidExtended,
   hidSpiCx, keyboardMouseFilter, virtualHid, usbSpec, usbBus, usbFunction, storage,
   usbDeviceEmulation, spb, spbCx, resourceHub, pwm, gpio, gpioClx, parallelPort, serialPort, wdf,
   wdfUsb, traceLogging]

def name : Group → String
  | ntKernel => "nt-kernel"
  | windows => "windows"
  | kernelSafeInteger => "kernel-safe-integer"
  | kernelSafeString => "kernel-safe-string"
  | powerFramework => "power-framework"
  | hidClass => "hid-class"
  | hidExtended => "hid-extended"
  | hidSpiCx => "hid-spi-cx"
  | keyboardMouseFilter => "keyboard-mouse-filter"
  | virtualHid => "virtual-hid"
  | usbSpec => "usb-spec"
  | usbBus => "usb-bus"
  | usbFunction => "usb-function"
  | storage => "storage"
  | usbDeviceEmulation => "usb-device-emulation"
  | spb => "spb"
  | spbCx => "spb-cx"
  | resourceHub => "resource-hub"
  | pwm => "pwm"
  | gpio => "gpio"
  | gpioClx => "gpio-clx"
  | parallelPort => "parallel-port"
  | serialPort => "serial-port"
  | wdf => "wdf"
  | wdfUsb => "wdf-usb"
  | traceLogging => "trace-logging"

def ofName? (name : String) : Option Group :=
  all.find? fun g => g.name = name

def subsystem : Group → Subsystem
  | ntKernel | windows | kernelSafeInteger | kernelSafeString | powerFramework => .core
  | hidClass | hidExtended | hidSpiCx | keyboardMouseFilter | virtualHid => .hid
  | usbSpec | usbBus | usbFunction => .usb
  | storage | usbDeviceEmulation => .storage
  | spb | spbCx | resourceHub | pwm | gpio | gpioClx => .peripheralBus
  | parallelPort | serialPort => .ports
  | wdf | wdfUsb => .framework
  | traceLogging => .diagnostics

def inclusion : Group → Inclusion
  | ntKernel | kernelSafeInteger | kernelSafeString | powerFramework | storage
  | usbDeviceEmulation => .kernelModeOnly
  | windows => .nonKernelModeOnly
  | hidClass | hidExtended | hidSpiCx | keyboardMouseFilter | virtualHid | usbSpec | usbBus
  | usbFunction => .outsideUmdf
  | wdf | wdfUsb => .frameworkOnly
  | spb | spbCx | resourceHub | pwm | gpio | gpioClx | parallelPort | serialPort
  | traceLogging => .always

def toggle? : Group → Option Toggle
  | kernelSafeInteger => some .kernelSafeInteger
  | kernelSafeString => some .kernelSafeString
  | powerFramework => some .powerFramework
  | hidExtended => some .hidExtendedHeaders
  | hidSpiCx => some .hidSpiCx
  | storage => some .storage
  | usbDeviceEmulation => some .usbDeviceEmulation
  | _ => none

/-- A group without a toggle is always enabled. -/
def isEnabled (g : Group) (o : Options) : Bool :=
  g.toggle?.all o.isOn

/-- The headers of a group, as paths below the include directories of a kit. -/
def headers (g : Group) (o : Options) : List String :=
  match g with
  | ntKernel => ["ntifs.h", "ntddk.h"]
  | windows => ["windows.h"]
  | kernelSafeInteger => ["ntintsafe.h"]
  | kernelSafeString => ["ntstrsafe.h"]
  | powerFramework => ["pepfx.h"]
  | hidClass => ["hidclass.h", "hidport.h", "hidsdi.h"]
  | hidExtended => ["hidpddi.h", "hidpi.h"]
  | hidSpiCx => ["HidSpiCx/1.0/hidspicx.h"]
  | keyboardMouseFilter => ["kbdmou.h", "ntdd8042.h"]
  | virtualHid => ["vhf.h"]
  | usbSpec => ["usbspec.h"]
  | usbBus => ["usb.h", "usbbusif.h", "usbioctl.h", "usbdlib.h"]
  | usbFunction => ["usbfnbase.h", "usbfnattach.h", "usbfnioctl.h"]
  | storage => ["ntddstor.h"]
  | usbDeviceEmulation => ["ude/1.0/UdeCx.h"]
  | spb => ["spb.h"]
  | spbCx => ["spb/" ++ o.spbCxVersion.text ++ "/spbcx.h"]
  | resourceHub => ["reshub.h"]
  | pwm => ["pwmutil.h"]
  | gpio => ["gpio.h"]
  | gpioClx => ["gpioclx.h"]
  | parallelPort => ["ntddpar.h", "parallel.h"]
  | serialPort => ["ntddser.h"]
  | wdf => ["wdf.h"]
  | wdfUsb => ["wdfusb.h"]
  | traceLogging => ["TraceLoggingProvider.h"]

theorem mem_all (g : Group) : g ∈ all := by
  cases g <;> decide

end Group

namespace Subsystem

def groups (s : Subsystem) : List Group :=
  Group.all.filter fun g => g.subsystem = s

end Subsystem

end KitSurface
