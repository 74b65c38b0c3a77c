import HciTransport.Channel.Alone
import HciTransport.CommandLine.Arguments
import HciTransport.CommandLine.Outcome
import HciTransport.Open

/-!
# Running commands

`list` and `info` print only when everything they did has succeeded. `dump` prints frame by frame,
and however it ends, the channel that it opened is dropped last.
-/

namespace HciTransport.CommandLine

open Channel (Gate Point)

/-- One controller in a list. -/
def listLine (info : DeviceInfo) : String :=
  hciName info.devId ++ "\t" ++ info.address.text ++ "\t" ++ info.flags.text

/-- What a list prints. -/
def listLines : List DeviceInfo → List String
  | [] => ["no controllers"]
  | infos => infos.map listLine

/-- What is printed about one controller. -/
def infoLines (info : DeviceInfo) : List String :=
  [hciName info.devId ++ ":\tType: " ++ toString info.devType.toNat ++ "  Name: " ++ info.name,
   "\tBD Address: " ++ info.address.text
     ++ "  ACL MTU: " ++ toString info.aclMtu.toNat ++ ":" ++ toString info.aclPkts.toNat
     ++ "  SCO MTU: " ++ toString info.scoMtu.toNat ++ ":" ++ toString info.scoPkts.toNat,
   "\t" ++ info.flags.text,
   "\tFeatures: 0x" ++ info.featuresHex,
   "\tPacket type: " ++ Hex.minimal info.pktType.toNat
     ++ "  Link policy: " ++ Hex.minimal info.linkPolicy.toNat
     ++ "  Link mode: " ++ Hex.minimal info.linkMode.toNat,
   "\tRX bytes:" ++ toString info.stats.byteRx.toNat ++ " acl:" ++ toString info.stats.aclRx.toNat
     ++ " sco:" ++ toString info.stats.scoRx.toNat ++ " events:" ++ toString info.stats.evtRx.toNat
     ++ " errors:" ++ toString info.stats.errRx.toNat,
   "\tTX bytes:" ++ toString info.stats.byteTx.toNat ++ " acl:" ++ toString info.stats.aclTx.toNat
     ++ " sco:" ++ toString info.stats.scoTx.toNat ++ " commands:" ++ toString info.stats.cmdTx.toNat
     ++ " errors:" ++ toString info.stats.errTx.toNat]

/-- Prints lines and ends. -/
def printing {α : Type} (lines : List String) (value : α) : Program Descriptor α :=
  lines.foldr (fun line rest => .emit (.line line) rest) (.done value)

/-- Does some work, says what it was if it fails, and prints what it brought otherwise. -/
def reporting {α : Type} (what : String) (work : Attempt α) (lines : α → List String) :
    Program Descriptor Outcome :=
  work.bind fun
    | .error error => .done (.during what error)
    | .ok value => printing (lines value) .success

/-! ### Dumping frames -/

/-- The length of the buffer that frames are read into. -/
def bufferLength : Nat := 1024

/-- The kind of a frame, and its bytes. -/
def frameLine (frame : Bytes) : String :=
  (match PacketKind.ofIndicator? (Bytes.byteAt frame 0) with
    | some kind => kind.short
    | none => "???") ++ " " ++ Hex.encode frame

/-- Prints frames until as many as wanted were read, or the channel has no more, or a read fails. One
buffer serves for all frames. `budget` bounds the reads that are looked at. -/
def dumpFrames (devId : UInt16) :
    (budget : Nat) → (wanted : Option Nat) → Gate → (buffer : Bytes) → Program Descriptor (Gate × Outcome)
  | budget, wanted, gate, buffer =>
    if wanted = some 0 then .done (gate, .success)
    else match budget with
      | 0 => .done (gate, .unfinished)
      | budget + 1 => (Channel.run devId gate (.read bufferLength)).bind fun
        | (gate, .ended (.returned (.read ⟨stored, .ok count⟩))) =>
          if count = 0 then .done (gate, .success)
          -- More than the buffer holds cannot be cut out of it.
          else if bufferLength < count then .done (gate, .crashed)
          else
            -- What a longer frame left behind the new one stays in the buffer.
            let buffer := Bytes.overlay stored buffer
            .emit (.line (frameLine (buffer.take count)))
              (dumpFrames devId budget (wanted.map (· - 1)) gate buffer)
        | (gate, .ended (.returned (.read ⟨_, .error error⟩))) => .done (gate, .ofError error)
        | (gate, _) => .done (gate, .unfinished)

/-- Sends the reset command, if that is wanted. -/
def sendReset (devId : UInt16) (wanted : Bool) (gate : Gate) : Program Descriptor (Gate × Outcome) :=
  if wanted then
    (Channel.run devId gate (.write resetFrame)).bind fun
      | (gate, .ended (.returned (.write (.ok _)))) => .done (gate, .success)
      | (gate, .ended (.returned (.write (.error error)))) =>
        .done (gate, .during "sending HCI_Reset" error)
      | (gate, _) => .done (gate, .unfinished)
  else .done (gate, .success)

/-- Closes the channel when all went well so far. -/
def closeChannel (devId : UInt16) (gate : Gate) : Program Descriptor (Gate × Outcome) :=
  (Channel.run devId gate .close).bind fun
    | (gate, .ended (.returned (.close (.ok ())))) => .done (gate, .success)
    | (gate, .ended (.returned (.close (.error error)))) =>
      .done (gate, .during "closing user channel" error)
    | (gate, _) => .done (gate, .unfinished)

/-- Goes on only if all went well so far. -/
def onSuccess (work : Program Descriptor (Gate × Outcome))
    (next : Gate → Program Descriptor (Gate × Outcome)) : Program Descriptor (Gate × Outcome) :=
  work.bind fun
    | (gate, .success) => next gate
    | failed => .done failed

/-- What is done with a channel that was opened. -/
def dumpChannel (budget : Nat) (options : DumpOptions) (devId : UInt16) :
    Program Descriptor (Gate × Outcome) :=
  onSuccess (sendReset devId options.sendReset .opened) fun gate =>
  onSuccess (dumpFrames devId budget options.count gate (Bytes.zeros bufferLength)) fun gate =>
  closeChannel devId gate

def runDump (budget : Nat) (options : DumpOptions) : Program Descriptor Outcome :=
  match DeviceSelector.fromIndex options.index with
  | .error error => .done (.ofError error)
  | .ok selector =>
    let config := { OpenConfig.standard with drainTimeout := .ofMillis options.drainMillis }
    (Open.channel selector config).bind fun
      | .error error => .done (.during "opening user channel" error)
      | .ok devId => .emit (.log (.opened devId)) <|
        (dumpChannel budget options devId).bind fun (gate, outcome) =>
        -- After a failure this is what closes the channel.
        (Channel.drop devId gate).bind fun () => .done outcome

/-- Runs a command; `budget` bounds the frames that `dump` reads. -/
def Command.run (budget : Nat) : Command → Program Descriptor Outcome
  | .list => reporting "listing controllers" Control.devices listLines
  | .info devId => reporting ("reading " ++ hciName devId) (Control.info devId) infoLines
  | .up devId =>
    reporting ("bringing " ++ hciName devId ++ " up") (Control.operate .up devId) fun () => []
  | .down devId =>
    reporting ("taking " ++ hciName devId ++ " down") (Control.operate .down devId) fun () => []
  | .reset devId =>
    reporting ("resetting " ++ hciName devId) (Control.operate .reset devId) fun () => []
  | .dump options => runDump budget options

/-- The least important entries that are shown. -/
def Arguments.logLimit (arguments : Arguments) : LogLevel := if arguments.verbose then .debug else .info

end HciTransport.CommandLine
