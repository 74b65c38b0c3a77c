import HciTransport.Bytes
import HciTransport.Device.Address
import HciTransport.Device.Flags
import HciTransport.Text.Utf8

/-!
# Device records

The kernel describes a controller by a record of ninety-two bytes. `Layout` declares where each
field starts; `DeviceInfo.decode` reads a record by it and `DeviceInfo.encode` writes one by it.
The three bytes after the feature bitmap are padding and belong to no field.
-/

namespace HciTransport

/-- Traffic counters that the kernel keeps for one controller. -/
structure DeviceStats where
  errRx : UInt32
  errTx : UInt32
  cmdTx : UInt32
  evtRx : UInt32
  aclTx : UInt32
  aclRx : UInt32
  scoTx : UInt32
  scoRx : UInt32
  byteRx : UInt32
  byteTx : UInt32
  deriving DecidableEq, Repr

/-- What the kernel tells about one controller. -/
structure DeviceInfo where
  devId : UInt16
  name : String
  address : DeviceAddress
  flags : DeviceFlags
  devType : UInt8
  features : Vector UInt8 8
  pktType : UInt32
  linkPolicy : UInt32
  linkMode : UInt32
  aclMtu : UInt16
  aclPkts : UInt16
  scoMtu : UInt16
  scoPkts : UInt16
  stats : DeviceStats
  deriving DecidableEq, Repr

/-! ### Where the fields start -/

namespace Layout

def devId : Nat := 0
def name : Nat := 2
def nameSize : Nat := 8
def address : Nat := 10
def flags : Nat := 16
def devType : Nat := 20
def features : Nat := 21
def padding : Nat := 29
def paddingSize : Nat := 3
def pktType : Nat := 32
def linkPolicy : Nat := 36
def linkMode : Nat := 40
def aclMtu : Nat := 44
def aclPkts : Nat := 46
def scoMtu : Nat := 48
def scoPkts : Nat := 50
def stats : Nat := 52

/-- The counters are ten words of four bytes each and end the record. -/
def stat (index : Nat) : Nat := stats + 4 * index

def size : Nat := 92

end Layout

open Bytes

namespace DeviceStats

def decode (record : Bytes) : DeviceStats where
  errRx := u32At record (Layout.stat 0)
  errTx := u32At record (Layout.stat 1)
  cmdTx := u32At record (Layout.stat 2)
  evtRx := u32At record (Layout.stat 3)
  aclTx := u32At record (Layout.stat 4)
  aclRx := u32At record (Layout.stat 5)
  scoTx := u32At record (Layout.stat 6)
  scoRx := u32At record (Layout.stat 7)
  byteRx := u32At record (Layout.stat 8)
  byteTx := u32At record (Layout.stat 9)

/-- The counters in the order of the record. -/
def toList (s : DeviceStats) : List UInt32 :=
  [s.errRx, s.errTx, s.cmdTx, s.evtRx, s.aclTx, s.aclRx, s.scoTx, s.scoRx, s.byteRx, s.byteTx]

end DeviceStats

namespace DeviceInfo

/-- The bytes of a name in a record: up to the first zero, or all eight. -/
def nameBytes (record : Bytes) : Bytes :=
  (bytesAt record Layout.name Layout.nameSize).toList.takeWhile (· ≠ 0)

/-- Reads a record that the kernel filled in. -/
def decode (record : Bytes) : DeviceInfo where
  devId := u16At record Layout.devId
  name := Utf8.decode (nameBytes record)
  address := ⟨bytesAt record Layout.address 6⟩
  flags := ⟨u32At record Layout.flags⟩
  devType := byteAt record Layout.devType
  features := bytesAt record Layout.features 8
  pktType := u32At record Layout.pktType
  linkPolicy := u32At record Layout.linkPolicy
  linkMode := u32At record Layout.linkMode
  aclMtu := u16At record Layout.aclMtu
  aclPkts := u16At record Layout.aclPkts
  scoMtu := u16At record Layout.scoMtu
  scoPkts := u16At record Layout.scoPkts
  stats := DeviceStats.decode record

/-- A record asking for one controller: zeroes, but for the index. -/
def request (devId : UInt16) : Bytes := overlay (ofU16 devId) (zeros Layout.size)

/-- Writes a record; the name is padded with zeroes, and cut if it is too long. -/
def encode (info : DeviceInfo) : Bytes :=
  ofU16 info.devId
    ++ overlay (Utf8.encode info.name) (zeros Layout.nameSize)
    ++ info.address.bytes.toList
    ++ ofU32 info.flags.bits
    ++ [info.devType]
    ++ info.features.toList
    ++ zeros Layout.paddingSize
    ++ ofU32 info.pktType
    ++ ofU32 info.linkPolicy
    ++ ofU32 info.linkMode
    ++ ofU16 info.aclMtu
    ++ ofU16 info.aclPkts
    ++ ofU16 info.scoMtu
    ++ ofU16 info.scoPkts
    ++ info.stats.toList.flatMap ofU32

def isUp (info : DeviceInfo) : Bool := info.flags.contains .up

/-- The feature bitmap in hexadecimal. -/
def featuresHex (info : DeviceInfo) : String := Hex.encode info.features.toList

@[simp] theorem length_request (devId : UInt16) : (request devId).length = Layout.size := by
  simp [request]

@[simp] theorem length_encode (info : DeviceInfo) : (encode info).length = Layout.size := by
  simp [encode, DeviceStats.toList, Layout.size, Layout.nameSize, Layout.paddingSize]

end DeviceInfo

end HciTransport
