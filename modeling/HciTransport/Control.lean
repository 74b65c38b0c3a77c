import HciTransport.Descriptor
import HciTransport.Device.Info

/-!
# Control operations

Each of these makes a control socket of its own, does its work on it and gives it back. What fails
first decides the result: making the socket, then the work, then giving it back. When the work fails
the socket is only discarded, and how that went is not reported.
-/

namespace HciTransport.Control

/-- Issues an operation whose argument is the index of a controller. -/
def issue (op : ControlOp) (devId : UInt16) : Attempt Unit :=
  .emit (.log (.control devId op)) <|
    .call (.control op.code devId) fun answer => .done (answer.mapError (.control op devId))

/-- Fetches one controller's record, into a fresh one. -/
def fetchInfo (devId : UInt16) : Attempt DeviceInfo :=
  .call (.deviceInfo (DeviceInfo.request devId)) fun answer =>
    .done ((answer.map DeviceInfo.decode).mapError (.control .info devId))

def fetchList : Attempt (List DeviceEntry) :=
  .call .listDevices fun answer => .done (answer.mapError .deviceList)

/-- One record for each entry, in the order of the entries; the first failure ends it. -/
def fetchInfos : List DeviceEntry → Attempt (List DeviceInfo)
  | [] => .done (.ok [])
  | entry :: rest =>
    (fetchInfo entry.devId).andThen fun info =>
      (fetchInfos rest).andThen fun infos => .done (.ok (info :: infos))

/-- Forgets the descriptor and ends. -/
def discardThen {α : Type} (result : Except HciError α) : Attempt α :=
  .call .discard fun () => .done result

/-- Does some work on a socket made for it. The attempt to open the socket is fixed to one request,
`.create`: it is all that opens a control socket, and how it can fail is all that can fail before the
work. -/
def withSocket {α : Type} (work : Attempt α) : Attempt α :=
  .call .create fun
    | .error cause => .done (.error (.socket cause))
    | .ok () => work.bind fun
      | .error error => discardThen (.error error)
      | .ok value => .call .release fun
        | .error cause => discardThen (.error (.close cause))
        | .ok () => discardThen (.ok value)

/-- Brings a controller up or down, or resets it. -/
def operate (op : ControlOp) (devId : UInt16) : Attempt Unit := withSocket (issue op devId)

/-- What the kernel tells about one controller. -/
def info (devId : UInt16) : Attempt DeviceInfo := withSocket (fetchInfo devId)

/-- The controllers that the kernel lists. -/
def list : Attempt (List DeviceEntry) := withSocket fetchList

/-- The controllers that the kernel lists, each with its record. -/
def devices : Attempt (List DeviceInfo) := withSocket (fetchList.andThen fetchInfos)

end HciTransport.Control
