import HciTransport.Simulation.Session

/-!
# Sessions with a raw socket

A series of steps on one raw socket over the played kernel, request by request. The socket is
forgotten at the end, and before another one is opened.
-/

namespace HciTransport.Simulation

/-- A step; a faulty field counts only once a socket is open. -/
inductive RawStep where
  | open
  | use (action : Scripted DescriptorCall)
  | drop

structure RawSession where
  world : World
  socket : Option RawSocket := none

namespace RawSession

/-- What the answer to a request brings. -/
def answerResult : (call : DescriptorCall) → call.Answer → Result
  | .create, outcome | .control _ _, outcome | .bindUserChannel _, outcome | .release, outcome =>
    match outcome with
    | .ok () => .value .nothing
    | .error error => .ioError error
  | .deviceInfo _, .ok record => .value (.record record)
  | .listDevices, .ok entries => .value (.entries entries)
  | .pollReadable _, .ok readable => .value (.flag readable)
  | .read length, ⟨stored, .ok count⟩ => .value (readValue length stored count)
  | .write _, .ok count => .value (.number count)
  | .deviceInfo _, .error error | .listDevices, .error error | .pollReadable _, .error error
  | .write _, .error error => .ioError error
  | .read _, ⟨_, .error error⟩ => .ioError error
  | .discard, () => .value .nothing

/-- Puts one request to a socket. -/
def request (session : RawSession) (socket : RawSocket) (call : DescriptorCall) :
    RawSession × Option call.Answer × List Meanwhile :=
  let (world, socket, answered) := session.world.request socket call
  (⟨world, some socket⟩, answered.answer, answered.during)

/-- Forgets the socket, if there is one. -/
def discard (session : RawSession) : RawSession :=
  match session.socket with
  | none => session
  | some socket => { (session.request socket .discard).1 with socket := none }

/-- Opens a socket; one that fails to open leaves none. -/
def openSocket (session : RawSession) : RawSession × Result :=
  let session := session.discard
  match session.request .absent .create with
  | (session, some (.ok ()), _) =>
    let fd := (session.socket.getD .absent).fd
    (session, .value (.number fd))
  | (session, some (.error error), _) => ({ session with socket := none }, .hciError (.socket error))
  | (session, none, _) => ({ session with socket := none }, .unwound)

def perform (session : RawSession) (step : RawStep) : RawSession × Result × List Meanwhile :=
  match step, session.socket with
  | .open, _ =>
    let (session, result) := session.openSocket
    (session, result, [])
  | _, none => (session, .noSocket, [])
  | .drop, some _ => (session.discard, .value .nothing, [])
  | .use (.error field), some _ => (session, .faulty field, [])
  | .use (.ok call), some socket =>
    let (session, answer, ops) := session.request socket call
    (session, (answer.map (answerResult call)).getD .unwound, ops)

/-- The entry for what was written down, and the session without it. -/
def page (session : RawSession) (result : Result) (ops : List Meanwhile) : RawSession × Entry :=
  ({ session with world := { session.world with calls := #[], log := #[] } },
    ⟨result, session.world.calls, session.world.log, Session.skipped ops, #[]⟩)

/-- Runs all steps; one entry for each, and one for the end. -/
def run (script : Script) (steps : List RawStep) : List Entry :=
  let start : RawSession := { world := { level := .kernel, script := script } }
  let (session, entries) := steps.foldl
    (fun (session, entries) step =>
      let (session, result, ops) := session.perform step
      let (session, entry) := session.page result ops
      (session, entries.push entry))
    (start, (#[] : Array Entry))
  entries.toList ++ [(session.discard.page (.value .nothing) []).2]

end RawSession

end HciTransport.Simulation
