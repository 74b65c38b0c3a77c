import HciTransport.Channel.Interleaving
import HciTransport.Errands
import HciTransport.Proofs.Socket.Tidy

/-!
# The life of a number

Every control operation makes a socket for itself and gives it back before it ends; a channel keeps the
one that it was opened on until it is closed or dropped; and where an operation fails half-way, what it has
made is given back there. So over a whole session, with any number of channels open side by side, the kernel
gets back every number that it has handed out, once, and nobody uses it after that (`Errands.closedOnce`).
-/

namespace HciTransport

variable {α β : Type}

/-! ## Programs that keep their descriptor -/

/-- The program works on a descriptor and does not give it back. -/
def Keeps (p : Program Descriptor α) : Prop := Tidy (fun live _ => live = true) true p

/-- The program makes a descriptor if it needs one, and has none at its end. -/
def Finishes (p : Program Descriptor α) : Prop := Tidy (fun live _ => live = false) false p

/-- What follows finds the descriptor where it was, and keeps it if it does so by itself. -/
theorem Keeps.bind {p : Program Descriptor α} {f : α → Program Descriptor β} (hp : Keeps p)
    (hf : ∀ value, Keeps (f value)) : Keeps (p.bind f) := by
  refine Tidy.bind hp ?_
  rintro live value rfl
  exact hf value

theorem Keeps.andThen {p : Attempt α} {f : α → Attempt β} (hp : Keeps p)
    (hf : ∀ value, Keeps (f value)) : Keeps (p.andThen f) := by
  refine hp.bind fun result => ?_
  cases result with
  | ok value => exact hf value
  | error error => exact .done rfl

namespace Control

theorem keeps_issue (op : ControlOp) (devId : UInt16) : Keeps (issue op devId) :=
  .emit (.use rfl fun _ => .done rfl)

theorem keeps_fetchInfo (devId : UInt16) : Keeps (fetchInfo devId) := .use rfl fun _ => .done rfl

theorem keeps_fetchList : Keeps fetchList := .use rfl fun _ => .done rfl

/-- To ask for more records costs no more descriptors. -/
theorem keeps_fetchInfos (entries : List DeviceEntry) : Keeps (fetchInfos entries) := by
  induction entries with
  | nil => exact .done rfl
  | cons entry entries ih =>
    refine (keeps_fetchInfo entry.devId).andThen fun info => ?_
    exact ih.andThen fun infos => .done rfl

/-- What ends with the descriptor forgotten has none. -/
theorem tidy_discardThen (live : Bool) (result : Except HciError α) :
    Tidy (fun live _ => live = false) live (discardThen result) :=
  .discard (.done rfl)

/-- However the work ends, the socket that was made for it is given back. -/
theorem finishes_withSocket {work : Attempt α} (hwork : Keeps work) : Finishes (withSocket work) := by
  refine .create ?_ fun cause => .done rfl
  refine Tidy.bind hwork fun live result hlive => ?_
  -- Work that has passed gives the socket back itself, and otherwise it is forgotten; there is no third way out.
  cases result with
  | error error => exact tidy_discardThen live _
  | ok value =>
    refine .release fun outcome => ?_
    cases outcome with
    | error cause => exact tidy_discardThen false _
    | ok => exact tidy_discardThen false _

/-- A change of a controller keeps no socket. -/
theorem finishes_operate (op : ControlOp) (devId : UInt16) : Finishes (operate op devId) :=
  finishes_withSocket (keeps_issue op devId)

theorem finishes_info (devId : UInt16) : Finishes (info devId) := finishes_withSocket (keeps_fetchInfo devId)

theorem finishes_list : Finishes list := finishes_withSocket keeps_fetchList

theorem finishes_devices : Finishes devices :=
  finishes_withSocket (keeps_fetchList.andThen keeps_fetchInfos)

end Control

namespace Open

open Control

/-- Draining polls and reads, whatever comes of it. -/
theorem keeps_drain (devId : UInt16) (config : OpenConfig) : Keeps (drain devId config) := by
  refine .use rfl fun answer => ?_
  rcases answer with cause | readable
  · exact .emit (.done rfl)
  · cases readable with
    | false => exact .done rfl
    | true =>
      refine .use rfl fun receipt => ?_
      obtain ⟨stored, outcome⟩ := receipt
      cases outcome with
      | ok count => exact .emit (.done rfl)
      | error cause => exact .emit (.done rfl)

theorem keeps_bind (devId : UInt16) : Keeps (bind devId) := by
  refine .use rfl fun answer => ?_
  cases answer with
  | error cause => exact .done rfl
  | ok => exact .emit (.done rfl)

/-- An attempt leaves the descriptor open, whether it has all hurdles behind it or has failed at one of them. -/
theorem keeps_prepare (devId : UInt16) (config : OpenConfig) : Keeps (prepare devId config) := by
  refine (keeps_issue .down devId).andThen fun _ => ?_
  refine (keeps_issue .up devId).andThen fun _ => ?_
  refine (keeps_issue .down devId).andThen fun _ => ?_
  refine (keeps_bind devId).andThen fun _ => ?_
  exact (keeps_drain devId config).bind fun _ => .done rfl

/-- All candidates are tried on one descriptor. -/
theorem keeps_probeFrom (config : OpenConfig) (failures : String) (candidates : List UInt16) :
    Keeps (probeFrom config failures candidates) := by
  -- The failures so far are only text, so the induction is for any.
  induction candidates generalizing failures with
  | nil => exact .done rfl
  | cons devId rest ih =>
    refine (keeps_prepare devId config).bind fun result => ?_
    cases result with
    | ok => exact .done rfl
    | error error => exact .emit (ih _)

/-- Whoever chooses the controller, the descriptor is left to the channel. -/
theorem keeps_select (selector : DeviceSelector) (config : OpenConfig) : Keeps (select selector config) := by
  cases selector with
  | index devId => exact (keeps_prepare devId config).andThen fun _ => .done rfl
  | any => exact keeps_fetchList.andThen fun entries => .emit (keeps_probeFrom config "" _)

/-- A channel that was opened has its descriptor, and one that was not has none. -/
theorem tidy_channel (selector : DeviceSelector) (config : OpenConfig) :
    Tidy (fun live result => live = result.isOk) false (channel selector config) := by
  refine .create ?_ fun cause => .done rfl
  refine Tidy.bind (keeps_select selector config) fun live result hlive => ?_
  cases result with
  | error error => exact .discard (.done rfl)
  | ok devId => exact .done hlive

end Open

namespace Channel

/-- Between operations a channel has its descriptor while it is open, and none once it was shut down. -/
def Gate.Fits (gate : Gate) (live : Bool) : Prop :=
  (gate = .opened ∧ live = true) ∨ (gate = .shut ∧ live = false)

variable {gate : Gate} {live : Bool} {asked : Point}

/-- A request of the channel leaves the descriptor as the gate says, and only a close gives it back. -/
theorem tidy_run (devId : UInt16) (hgate : gate.Fits live) (hasked : Asked asked) :
    Tidy (fun live ending => ending.1.Fits live) live (run devId gate asked) := by
  -- An open gate lets the request through to the descriptor, and a shut one refuses it before that.
  rcases hgate with ⟨rfl, rfl⟩ | ⟨rfl, rfl⟩
  · cases hasked with
    | read length =>
      rw [run_read_opened]
      exact .use rfl fun receipt => Tidy.logAll (.done (.inl ⟨rfl, rfl⟩)) _
    | write frame =>
      rw [run_write_opened]
      exact .use rfl fun answer => Tidy.logAll (.done (.inl ⟨rfl, rfl⟩)) _
    | close =>
      rw [run_close_opened]
      refine .use rfl fun answer => Tidy.logAll ?_ _
      exact .release fun outcome => .done (.inr ⟨rfl, rfl⟩)
  · cases hasked with
    | read length =>
      rw [run_read_shut]
      exact .done (.inr ⟨rfl, rfl⟩)
    | write frame =>
      rw [run_write_shut]
      exact .done (.inr ⟨rfl, rfl⟩)
    | close =>
      rw [run_close_shut]
      exact Tidy.logAll (.done (.inr ⟨rfl, rfl⟩)) _

/-- A channel that was dropped has none, whether it was closed before or not. -/
theorem tidy_drop (devId : UInt16) (hgate : gate.Fits live) :
    Tidy (fun live _ => live = false) live (drop devId gate) := by
  have hrun : Tidy (fun live _ => live = false) live (run devId gate .drop) := by
    rcases hgate with ⟨rfl, rfl⟩ | ⟨rfl, rfl⟩
    · rw [run_drop_opened]
      refine .use rfl fun answer => Tidy.logAll ?_ _
      refine .release fun outcome => Tidy.logAll ?_ _
      exact .done rfl
    · rw [run_drop_shut]
      exact .done rfl
  exact hrun.bind fun live ending hlive => .discard (.done rfl)

end Channel

/-! ## Sessions -/

open Channel (Point)

namespace Errands

/-- The numbers that the channels hold. -/
def numbers : List OpenChannel → Multiset Int
  | [] => 0
  | channel :: channels => channel.socket.numbers + numbers channels

/-- The gate of each channel fits its socket. -/
def Sound (channels : List OpenChannel) : Prop :=
  ∀ channel ∈ channels, channel.gate.Fits (!channel.socket.released)

variable {channels channels' : List OpenChannel} {channel : OpenChannel} {place : Nat} {trace : Trace Kernel}

theorem numbers_append (channels more : List OpenChannel) :
    numbers (channels ++ more) = numbers channels + numbers more := by
  induction channels with
  | nil => exact (Multiset.zero_add _).symm
  | cons channel channels ih =>
    rw [List.cons_append, numbers, ih, numbers, Multiset.add_assoc]

/-- A channel that is taken out of the others takes its own numbers with it. -/
theorem numbers_eraseIdx (hhere : channels[place]? = some channel) :
    numbers channels = channel.socket.numbers + numbers (channels.eraseIdx place) := by
  obtain ⟨hlt, rfl⟩ := List.getElem?_eq_some_iff.mp hhere
  have hsplit : channels = channels.take place ++ channels[place] :: channels.drop (place + 1) := by
    simp
  rw [List.eraseIdx_eq_take_drop_succ, numbers_append]
  -- Only on this side the channel is in its place still.
  conv_lhs => rw [hsplit, numbers_append, numbers]
  rw [← Multiset.add_assoc, Multiset.add_comm (numbers _), Multiset.add_assoc]

/-! ### What an errand does with the numbers -/

/-- An operation without a channel hands back what it was given. -/
theorem uses_transient {p : Program Descriptor α} (hp : Finishes p)
    (hruns : (transient p channels).Runs trace channels') :
    Uses (numbers channels) trace (numbers channels) ∧ channels' = channels := by
  obtain ⟨before, after, ⟨socket, value⟩, rfl, hfirst, hdone⟩ := Program.runs_bind_iff.mp hruns
  obtain ⟨rfl, hsame⟩ := Program.runs_done_iff.mp hdone
  obtain ⟨huses, hnone⟩ := hp.uses rfl hfirst (numbers channels)
  -- It starts without a number and ends without one.
  rw [numbers_of_released rfl, numbers_of_released (by simpa using hnone), Multiset.zero_add] at huses
  rw [List.append_nil]
  exact ⟨huses, hsame⟩

/-- Opening adds the number of the channel, if there is one. -/
theorem uses_openChannel {selector : DeviceSelector} {config : OpenConfig} (hsound : Sound channels)
    (hruns : (openChannel selector config channels).Runs trace channels') :
    Uses (numbers channels) trace (numbers channels') ∧ Sound channels' := by
  obtain ⟨before, after, ⟨socket, result⟩, rfl, hfirst, hdone⟩ := Program.runs_bind_iff.mp hruns
  obtain ⟨huses, hlive⟩ := (Open.tidy_channel selector config).uses rfl hfirst (numbers channels)
  rw [numbers_of_released rfl, Multiset.zero_add] at huses
  -- Whether there is a channel now says whether the socket is still live.
  cases result with
  | error error =>
    obtain ⟨rfl, rfl⟩ := Program.runs_done_iff.mp hdone
    have hnone : socket.released = true := by simpa [Except.isOk, Except.toBool] using hlive
    rw [numbers_of_released hnone, Multiset.zero_add] at huses
    rw [List.append_nil]
    exact ⟨huses, hsound⟩
  | ok devId =>
    obtain ⟨rfl, rfl⟩ := Program.runs_done_iff.mp hdone
    rw [List.append_nil, numbers_append]
    refine ⟨?_, ?_⟩
    · rw [numbers, numbers, Multiset.add_zero, Multiset.add_comm]
      exact huses
    · intro channel hmem
      rcases List.mem_append.mp hmem with hmem | hmem
      · exact hsound channel hmem
      · obtain rfl := List.mem_singleton.mp hmem
        exact .inl ⟨rfl, hlive⟩

/-- A request changes the numbers of its channel only, and the gate goes with them. -/
theorem uses_useChannel {asked : Point} (hasked : Channel.Asked asked) (hsound : Sound channels)
    (hruns : (useChannel place asked channels).Runs trace channels') :
    Uses (numbers channels) trace (numbers channels') ∧ Sound channels' := by
  rw [useChannel.eq_def] at hruns
  split at hruns
  · obtain ⟨rfl, rfl⟩ := Program.runs_done_iff.mp hruns
    exact ⟨.nil, hsound⟩
  · next channel hhere =>
    obtain ⟨before, after, ⟨socket, gate, ending⟩, rfl, hfirst, hdone⟩ := Program.runs_bind_iff.mp hruns
    obtain ⟨rfl, rfl⟩ := Program.runs_done_iff.mp hdone
    have hfits := hsound channel (List.mem_of_getElem? hhere)
    have htidy := Channel.tidy_run channel.devId hfits hasked
    obtain ⟨huses, hstill⟩ := htidy.uses (Bool.not_not _).symm hfirst (numbers (channels.eraseIdx place))
    have hlt : place < channels.length := (List.getElem?_eq_some_iff.mp hhere).1
    have hplace : (channels.set place ⟨channel.devId, gate, socket⟩)[place]? =
        some ⟨channel.devId, gate, socket⟩ :=
      List.getElem?_set_self hlt
    refine ⟨?_, ?_⟩
    -- The other channels are the same before and after, so they are the rest that is not touched.
    · rw [List.append_nil, numbers_eraseIdx hhere, numbers_eraseIdx hplace, List.eraseIdx_set_eq]
      exact huses
    · intro other hmem
      rcases List.mem_or_eq_of_mem_set hmem with hmem | rfl
      · exact hsound other hmem
      · exact hstill

/-- A channel that is dropped gives back what it holds. -/
theorem uses_dropChannel (hfits : channel.gate.Fits (!channel.socket.released))
    (hruns : (dropChannel channel).Runs trace ()) (rest : Multiset Int) :
    Uses (channel.socket.numbers + rest) trace rest := by
  obtain ⟨before, after, ⟨socket, ending⟩, rfl, hfirst, hdone⟩ := Program.runs_bind_iff.mp hruns
  obtain ⟨rfl, -⟩ := Program.runs_done_iff.mp hdone
  have htidy := Channel.tidy_drop channel.devId hfits
  obtain ⟨huses, hnone⟩ := htidy.uses (Bool.not_not _).symm hfirst rest
  have hgone : socket.released = true := by simpa using hnone
  rw [numbers_of_released hgone, Multiset.zero_add] at huses
  rw [List.append_nil]
  exact huses

/-- **An errand accounts for the numbers of the channels before it and after it.** -/
theorem uses_perform {errand : Errand} (hsound : Sound channels)
    (hruns : (perform channels errand).Runs trace channels') :
    Uses (numbers channels) trace (numbers channels') ∧ Sound channels' := by
  -- An operation that finishes leaves the channels alone.
  have hkept : ∀ {α : Type} {p : Program Descriptor α}, Finishes p →
      (transient p channels).Runs trace channels' →
      Uses (numbers channels) trace (numbers channels') ∧ Sound channels' := by
    intro α p hp hruns
    obtain ⟨huses, rfl⟩ := uses_transient hp hruns
    exact ⟨huses, hsound⟩
  cases errand with
  | operate op devId => exact hkept (Control.finishes_operate op devId) hruns
  | info devId => exact hkept (Control.finishes_info devId) hruns
  | list => exact hkept Control.finishes_list hruns
  | devices => exact hkept Control.finishes_devices hruns
  | «open» selector config => exact uses_openChannel hsound hruns
  | read place length => exact uses_useChannel (.read length) hsound hruns
  | write place frame => exact uses_useChannel (.write frame) hsound hruns
  | close place => exact uses_useChannel .close hsound hruns
  | drop place =>
    rw [perform.eq_def] at hruns
    simp only at hruns
    split at hruns
    · obtain ⟨rfl, rfl⟩ := Program.runs_done_iff.mp hruns
      exact ⟨.nil, hsound⟩
    · next channel hhere =>
      obtain ⟨before, after, _, rfl, hfirst, hdone⟩ := Program.runs_bind_iff.mp hruns
      obtain ⟨rfl, rfl⟩ := Program.runs_done_iff.mp hdone
      have hfits := hsound channel (List.mem_of_getElem? hhere)
      refine ⟨?_, fun other hmem => hsound other (List.mem_of_mem_eraseIdx hmem)⟩
      rw [List.append_nil, numbers_eraseIdx hhere]
      exact uses_dropChannel hfits hfirst _

/-- At the end of a session every number is back. -/
theorem uses_dropAll (hsound : Sound channels) (hruns : (dropAll channels).Runs trace ()) :
    Uses (numbers channels) trace 0 := by
  induction channels generalizing trace with
  | nil =>
    obtain ⟨rfl, -⟩ := Program.runs_done_iff.mp hruns
    exact .nil
  | cons channel channels ih =>
    obtain ⟨before, after, _, rfl, hfirst, hlast⟩ := Program.runs_bind_iff.mp hruns
    have hothers : Sound channels := fun other hmem => hsound other (List.mem_cons_of_mem _ hmem)
    have hdropped := uses_dropChannel (hsound channel List.mem_cons_self) hfirst (numbers channels)
    exact hdropped.append (ih hothers hlast)

/-- A whole session accounts for the numbers of its channels, and none is out at its end. -/
theorem uses_run {errands : List Errand} (hsound : Sound channels)
    (hruns : (run errands channels).Runs trace ()) : Uses (numbers channels) trace 0 := by
  -- Over the errands: each takes the channels over from the one before it, and what is left is dropped.
  induction errands generalizing channels trace with
  | nil => exact uses_dropAll hsound hruns
  | cons errand errands ih =>
    obtain ⟨before, after, channels', rfl, hfirst, hlast⟩ := Program.runs_bind_iff.mp hruns
    obtain ⟨huses, hstill⟩ := uses_perform hsound hfirst
    exact huses.append (ih hstill hlast)

/-- **Every number of the kernel is closed once, and not used after that**, in any session with a kernel that
hands out no number twice. -/
theorem closedOnce {errands : List Errand} (hruns : (run errands []).Runs trace ())
    (hdistinct : (handedOut trace).Nodup) : ClosedOnce trace :=
  closedOnce_of_uses (uses_run (fun _ hmem => by cases hmem) hruns) hdistinct

/-- A kernel that grants every call but a close. -/
def reluctant : (call : KernelCall) → call.Answer
  | .socket _ _ _ => (⟨3, 0⟩ : Status)
  | .control _ _ _ | .bind _ _ => (⟨0, 0⟩ : Status)
  | .deviceInfo _ _ record => ((⟨0, 0⟩, record) : Status × Bytes)
  | .deviceList _ _ request => ((⟨0, 0⟩, request) : Status × DeviceListRequest)
  | .poll _ _ _ _ => ((⟨0, 0⟩, 0) : Status × Int)
  | .read _ _ => ((⟨0, 0⟩, []) : Status × Bytes)
  | .write _ frame => (⟨frame.length, 0⟩ : Status)
  | .close _ => (⟨-1, 5⟩ : Status)

/-- A channel that is read from and closed; what the close answers is an error. -/
def brief : Program Kernel Unit := run [.open (.index 0) .standard, .read 0 4, .close 0] []

/-- The number is given back though the close has failed, and once. -/
theorem closedOnce_brief :
    brief.Runs (brief.follow reluctant).1 () ∧
      handedOut (brief.follow reluctant).1 = [3] ∧ givenBack (brief.follow reluctant).1 = [3] ∧
      ClosedOnce (brief.follow reluctant).1 := by
  have hruns : brief.Runs (brief.follow reluctant).1 () := Program.runs_follow reluctant brief
  have hout : handedOut (brief.follow reluctant).1 = [3] := rfl
  have hdistinct : (handedOut (brief.follow reluctant).1).Nodup := by
    rw [hout]
    exact List.pairwise_singleton _ _
  exact ⟨hruns, hout, rfl, closedOnce hruns hdistinct⟩

end Errands

end HciTransport
