import HciTransport.Text.Hex

/-!
# Control codes

A control code names one operation of a driver. The number of the operation is in bits 0 to 7, the
driver's tag in bits 8 to 15, the size of the argument in bits 16 to 29 and the direction of the
transfer in the top two. The fields never overlap: a size that needs more than fourteen bits loses
the higher ones and leaves the direction alone.
-/

namespace HciTransport

/-- Which way the argument of a control operation travels, seen from the caller. -/
inductive Direction where
  /-- The kernel only takes the argument in. -/
  | write
  /-- The kernel writes the argument back. -/
  | read
  deriving DecidableEq, Repr

/-- The direction as it stands in the top two bits. -/
def Direction.bits : Direction → Nat
  | .write => 1
  | .read => 2

/-- The number that names a control operation to the kernel. -/
structure ControlCode where
  raw : UInt32
  deriving DecidableEq, Repr

namespace ControlCode

/-- Puts the four fields side by side. It is a sum, which is the same as shifting them to their places
and cutting the size by a mask (`ControlCode.raw_eq_masked`). -/
def ofFields (direction : Direction) (tag number : UInt8) (size : UInt32) : ControlCode :=
  ⟨UInt32.ofNat
    (((direction.bits * 0x4000 + size.toNat % 0x4000) * 0x100 + tag.toNat) * 0x100 + number.toNat)⟩

/-- The top two bits. -/
def direction (code : ControlCode) : Nat := code.raw.toNat / 0x40000000

/-- `0x` and eight lower-case digits. -/
def text (code : ControlCode) : String := Hex.padded 8 code.raw.toNat

/-- All operations on controllers carry the tag `H` and claim an argument of four bytes, whatever
they are really passed. -/
def ofNumber (direction : Direction) (number : UInt8) : ControlCode := ofFields direction 0x48 number 4

def deviceUp : ControlCode := ofNumber .write 201
def deviceDown : ControlCode := ofNumber .write 202
def deviceReset : ControlCode := ofNumber .write 203
def deviceList : ControlCode := ofNumber .read 210
def deviceInfo : ControlCode := ofNumber .read 211

example : [deviceUp, deviceDown, deviceReset, deviceList, deviceInfo].map (·.raw) =
    [0x400448c9, 0x400448ca, 0x400448cb, 0x800448d2, 0x800448d3] := by decide

/-- Every field fits its place, so the code is the plain sum and nothing is cut off. -/
theorem toNat_ofFields (direction : Direction) (tag number : UInt8) (size : UInt32) :
    (ofFields direction tag number size).raw.toNat =
      ((direction.bits * 0x4000 + size.toNat % 0x4000) * 0x100 + tag.toNat) * 0x100 + number.toNat := by
  have tagSmall : tag.toNat < 256 := tag.toNat_lt
  have numberSmall : number.toNat < 256 := number.toNat_lt
  have sizeSmall : size.toNat % 0x4000 < 0x4000 := Nat.mod_lt _ (by decide)
  have directionSmall : direction.bits ≤ 2 := by cases direction <;> decide
  simp only [ofFields, UInt32.toNat_ofNat']
  omega

/-- Not even an oversized argument disturbs the direction. -/
@[simp] theorem direction_ofFields (direction : Direction) (tag number : UInt8) (size : UInt32) :
    (ofFields direction tag number size).direction = direction.bits := by
  have tagSmall : tag.toNat < 256 := tag.toNat_lt
  have numberSmall : number.toNat < 256 := number.toNat_lt
  have sizeSmall : size.toNat % 0x4000 < 0x4000 := Nat.mod_lt _ (by decide)
  simp only [ControlCode.direction, toNat_ofFields]
  omega

end ControlCode

/-- What can be asked of a controller without opening a channel to it. -/
inductive ControlOp where
  | up
  | down
  | reset
  | info
  deriving DecidableEq, Repr

namespace ControlOp

/-- The operation as it reads in messages. -/
def text : ControlOp → String
  | .up => "up device"
  | .down => "down device"
  | .reset => "reset device"
  | .info => "get device info"

/-- The code that carries the operation. -/
def code : ControlOp → ControlCode
  | .up => .deviceUp
  | .down => .deviceDown
  | .reset => .deviceReset
  | .info => .deviceInfo

end ControlOp

end HciTransport
