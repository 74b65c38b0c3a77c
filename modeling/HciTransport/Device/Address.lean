import HciTransport.Text.Hex

/-!
# Device addresses

An address is stored lowest byte first and written highest byte first.
-/

namespace HciTransport

/-- The six bytes of a controller's address, in the order in which the kernel stores them. -/
structure DeviceAddress where
  bytes : Vector UInt8 6
  deriving DecidableEq, Repr

namespace DeviceAddress

/-- Six pairs of upper-case digits with a colon between them. -/
def text (address : DeviceAddress) : String :=
  ":".intercalate (address.bytes.toList.reverse.map fun b => String.ofList (Hex.pair Hex.upperDigit b))

example : text ⟨#v[0x66, 0x55, 0x44, 0x33, 0x0A, 0xFF]⟩ = "FF:0A:33:44:55:66" := by decide

end DeviceAddress

end HciTransport
