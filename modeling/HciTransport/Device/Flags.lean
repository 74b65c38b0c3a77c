/-!
# Device flags

The state bits of a controller. Bits without a name are kept in the word and never shown.
-/

namespace HciTransport

/-- The state bits that have a name, in the order of their positions. -/
inductive DeviceFlag where
  | up
  | init
  | running
  | pscan
  | iscan
  | auth
  | encrypt
  | inquiry
  | raw
  deriving DecidableEq, Repr

namespace DeviceFlag

/-- All named bits, lowest first. -/
def all : List DeviceFlag := [.up, .init, .running, .pscan, .iscan, .auth, .encrypt, .inquiry, .raw]

def position : DeviceFlag → Nat
  | .up => 0
  | .init => 1
  | .running => 2
  | .pscan => 3
  | .iscan => 4
  | .auth => 5
  | .encrypt => 6
  | .inquiry => 7
  | .raw => 8

def name : DeviceFlag → String
  | .up => "UP"
  | .init => "INIT"
  | .running => "RUNNING"
  | .pscan => "PSCAN"
  | .iscan => "ISCAN"
  | .auth => "AUTH"
  | .encrypt => "ENCRYPT"
  | .inquiry => "INQUIRY"
  | .raw => "RAW"

end DeviceFlag

/-- A word of state bits as the kernel reports it. -/
structure DeviceFlags where
  bits : UInt32
  deriving DecidableEq, Repr

namespace DeviceFlags

def contains (flags : DeviceFlags) (flag : DeviceFlag) : Bool := flags.bits.toNat.testBit flag.position

/-- The named bits that are set, lowest first. -/
def set (flags : DeviceFlags) : List DeviceFlag := DeviceFlag.all.filter flags.contains

/-- The names of the bits that are set, a blank between them, or one word when there is none. -/
def text (flags : DeviceFlags) : String :=
  match flags.set with
  | [] => "DOWN"
  | named => " ".intercalate (named.map DeviceFlag.name)

theorem mem_set (flags : DeviceFlags) (flag : DeviceFlag) : flag ∈ flags.set ↔ flags.contains flag := by
  simp only [set, List.mem_filter, and_iff_right_iff_imp]
  intro _
  cases flag <;> decide

end DeviceFlags

end HciTransport
