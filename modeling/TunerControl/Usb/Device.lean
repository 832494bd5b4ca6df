import TunerControl.Json.Value

/-! USB devices: their identities, the supported ones, and what callers are told about them. -/

namespace TunerControl.Usb

open Json (Value)

/-- The vendor and product numbers of a device model. -/
structure DeviceId where
  vendor : UInt16
  product : UInt16
  deriving DecidableEq, Repr

/-- The models of RTL-SDR dongles that are supported. -/
def rtlSdrModels : List DeviceId :=
  [⟨0x0bda, 0x2832⟩, ⟨0x0bda, 0x2838⟩, ⟨0x1f4d, 0xb803⟩, ⟨0x1f4d, 0xc803⟩, ⟨0x1b80, 0xd3a4⟩,
   ⟨0x1d19, 0x1101⟩, ⟨0x1d19, 0x1102⟩, ⟨0x1d19, 0x1103⟩]

/-- The models of HackRF boards that are supported. -/
def hackRfModels : List DeviceId :=
  [⟨0x1d50, 0x6089⟩]

/-- The identity as JSON. -/
def DeviceId.toJson (id : DeviceId) : Value :=
  .record [("vendorId", .int id.vendor.toNat), ("productId", .int id.product.toNat)]

/-- A device as the host reports it. -/
structure Attached where
  id : DeviceId
  path : String
  productName : Option String := none
  manufacturerName : Option String := none
  deriving DecidableEq, Repr

/-- A device as callers see it. -/
structure Descriptor where
  id : DeviceId
  path : String
  productName : String
  manufacturerName : String
  hasPermission : Bool
  deriving DecidableEq, Repr

namespace Descriptor

/-- The descriptor of an attached device. A device without names gets general ones. -/
def ofAttached (d : Attached) (hasPermission : Bool) : Descriptor :=
  { id := d.id
    path := d.path
    productName := d.productName.getD "RTL-SDR"
    manufacturerName := d.manufacturerName.getD "Unknown"
    hasPermission }

/-- Whether the model is on a list. -/
def isOn (d : Descriptor) (models : List DeviceId) : Bool :=
  models.contains d.id

/-- Whether two descriptors are of one device: names and permission do not count. -/
def sameDevice (a b : Descriptor) : Bool :=
  a.id = b.id && a.path = b.path

/-- The descriptor as JSON. -/
def toJson (d : Descriptor) : Value :=
  .record [("vendorId", .int d.id.vendor.toNat), ("productId", .int d.id.product.toNat),
    ("path", .text d.path), ("productName", .text d.productName),
    ("manufacturerName", .text d.manufacturerName), ("hasPermission", .bool d.hasPermission)]

end Descriptor

/-- A HackRF board as callers see it. -/
structure HackRfBoard where
  index : Nat
  name : String
  manufacturer : String
  serial : String
  deviceName : String
  hasPermission : Bool
  deriving DecidableEq, Repr

namespace HackRfBoard

/-- The board at a place in the list of devices. All boards have the same names. -/
def ofDescriptor (index : Nat) (d : Descriptor) : HackRfBoard :=
  { index
    name := "HackRF One"
    manufacturer := "Great Scott Gadgets"
    serial := ""
    deviceName := d.path
    hasPermission := d.hasPermission }

/-- The board as JSON. -/
def toJson (b : HackRfBoard) : Value :=
  .record [("index", .int b.index), ("name", .text b.name), ("manufacturer", .text b.manufacturer),
    ("serial", .text b.serial), ("deviceName", .text b.deviceName),
    ("hasPermission", .bool b.hasPermission)]

end HackRfBoard

/-- An open connection: its file descriptor and the path of its device. -/
structure Handle where
  fd : Int32
  devicePath : String
  deriving DecidableEq, Repr

/-- The connection as JSON. -/
def Handle.toJson (h : Handle) : Value :=
  .record [("fd", .int h.fd.toInt), ("devicePath", .text h.devicePath)]

end TunerControl.Usb
