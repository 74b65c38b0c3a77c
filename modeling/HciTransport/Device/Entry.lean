/-!
# The list of controllers

The kernel fills a request of sixteen slots and says how many of them it used. Only as many as it
reports are ever looked at, and never more than there are.
-/

namespace HciTransport

/-- One controller in the kernel's list. -/
structure DeviceEntry where
  devId : UInt16
  opt : UInt32
  deriving DecidableEq, Repr

/-- How many controllers one request can name. -/
def maxDevices : Nat := 16

/-- A list request: how many slots count, and the slots. -/
structure DeviceListRequest where
  number : UInt16
  slots : List DeviceEntry
  deriving DecidableEq, Repr

namespace DeviceListRequest

/-- A request as it is handed to the kernel: it offers all sixteen slots, all of them blank. -/
def offer : DeviceListRequest := ⟨UInt16.ofNat maxDevices, List.replicate maxDevices ⟨0, 0⟩⟩

/-- The controllers that the kernel reported. -/
def entries (request : DeviceListRequest) : List DeviceEntry :=
  request.slots.take (min request.number.toNat maxDevices)

theorem getElem?_entries (request : DeviceListRequest) (k : Nat) :
    request.entries[k]? = if k < min request.number.toNat maxDevices then request.slots[k]? else none :=
  List.getElem?_take

/-- Two requests that agree on the count and on the slots it covers list the same controllers. -/
theorem entries_congr {a b : DeviceListRequest} (number : a.number = b.number)
    (slots : ∀ k < min a.number.toNat maxDevices, a.slots[k]? = b.slots[k]?) : a.entries = b.entries := by
  refine List.ext_getElem? fun k => ?_
  rw [getElem?_entries, getElem?_entries, ← number]
  split
  · next covered => exact slots k covered
  · rfl

end DeviceListRequest

end HciTransport
