import HciTransport.Bytes

/-!
# Packets

Every frame begins with a byte that tells its kind. Nothing else in a frame is looked at here, but
two commands are sent by the transport itself.
-/

namespace HciTransport

inductive PacketKind where
  | command
  | acl
  | sco
  | event
  | iso
  deriving DecidableEq, Repr

namespace PacketKind

def all : List PacketKind := [.command, .acl, .sco, .event, .iso]

/-- The first byte of a frame of this kind. -/
def indicator : PacketKind → UInt8
  | .command => 0x01
  | .acl => 0x02
  | .sco => 0x03
  | .event => 0x04
  | .iso => 0x05

def ofIndicator? (b : UInt8) : Option PacketKind := all.find? (·.indicator = b)

/-- The kind in three letters. -/
def short : PacketKind → String
  | .command => "CMD"
  | .acl => "ACL"
  | .sco => "SCO"
  | .event => "EVT"
  | .iso => "ISO"

theorem ofIndicator?_indicator (kind : PacketKind) : ofIndicator? kind.indicator = some kind := by
  cases kind <;> decide

end PacketKind

/-- Sent when a user channel is closed: a command without parameters. Layers above rely on exactly
these four bytes. -/
def closeFrame : Bytes := [PacketKind.command.indicator, 0x09, 0x10, 0x00]

/-- The command that resets a controller. -/
def resetFrame : Bytes := [PacketKind.command.indicator, 0x03, 0x0c, 0x00]

end HciTransport
