import HciTransport.Proofs.CommandLine.Dump

/-!
# The lines of a dump

The line for a frame spells its kind and all of its bytes, so two frames with one line are one frame
(`frameLine_injective`). But a line is made of what has come into the buffer, and the buffer has a fixed
length, whereas the length of a frame is up to the controller: a packet of asynchronous data alone may carry
65535 bytes behind its header. What a dump prints for a frame is the line of its first bytes, and that is the
line of the frame exactly where it fits (`prints_cut`). Neither the output nor the exit status tells when a
frame was cut (`aclFrame_cut`).
-/

namespace HciTransport

variable {I : Interface} {before after : Trace I} {made : Trace Kernel}

namespace Sign

/-- The line that is printed. -/
def line? : Sign I → Option String
  | .said (.line text) => some text
  | .said (.log _) | .asked _ _ => none

/-- What a read has brought, if it has brought something: how much, and what was stored. -/
def arrival? : Sign Kernel → Option (Int × Bytes)
  | .asked (.read _ _) (status, stored) =>
    if 0 < Status.ret status then some (Status.ret status, stored) else none
  | .asked _ _ | .said _ => none

end Sign

/-- The lines that were printed. -/
def printed (trace : Trace I) : List String := trace.filterMap Sign.line?

/-- What the reads have brought that have brought something. -/
def arrivals (made : Trace Kernel) : List (Int × Bytes) := made.filterMap Sign.arrival?

theorem printed_append : printed (before ++ after) = printed before ++ printed after := List.filterMap_append

theorem arrivals_append {before after : Trace Kernel} :
    arrivals (before ++ after) = arrivals before ++ arrivals after := List.filterMap_append

/-- Nothing is printed and nothing comes in. -/
def Silent (made : Trace Kernel) : Prop := ∀ sign ∈ made, sign.line? = none ∧ sign.arrival? = none

theorem Silent.printed_eq (hsilent : Silent made) : printed made = [] :=
  List.filterMap_eq_nil_iff.mpr fun sign hmem => (hsilent sign hmem).1

theorem Silent.arrivals_eq (hsilent : Silent made) : arrivals made = [] :=
  List.filterMap_eq_nil_iff.mpr fun sign hmem => (hsilent sign hmem).2

theorem silent_ofLog (entries : List LogEntry) : Silent (Trace.ofLog entries) := by
  intro sign hmem
  obtain ⟨entry, -, rfl⟩ := List.mem_map.mp hmem
  exact ⟨rfl, rfl⟩

/-- One frame for a read with room for `length` bytes; the excess is lost. -/
def cut (length : Nat) (frame : Bytes) : Int × Bytes := ((frame.take length).length, frame.take length)

namespace Bytes

/-- What was stored shows in the buffer where it fits. -/
theorem take_overlay {stored buffer : Bytes} (hfits : stored.length ≤ buffer.length) :
    (overlay stored buffer).take stored.length = stored := by
  rw [overlay_of_le hfits, List.take_left]

end Bytes

namespace CommandLine

variable {devId : UInt16} {budget : Nat} {options : DumpOptions} {wanted : Option Nat} {buffer : Bytes}
  {socket live : RawSocket} {opening rest : Trace Kernel} {outcome : Outcome} {fd : Int}

/-! ## A line tells its frame -/

/-- The kind of a frame, in three letters. -/
theorem frameLine_eq (frame : Bytes) :
    ∃ kind : String, kind.length = 3 ∧ frameLine frame = kind ++ " " ++ Hex.encode frame := by
  cases hkind : PacketKind.ofIndicator? (Bytes.byteAt frame 0) with
  | none => exact ⟨"???", rfl, by rw [frameLine, hkind]⟩
  | some kind => exact ⟨kind.short, by cases kind <;> rfl, by rw [frameLine, hkind]⟩

/-- **A line tells its frame.** -/
theorem frameLine_injective {frame other : Bytes} (hline : frameLine frame = frameLine other) : frame = other := by
  obtain ⟨kind, hkind, heq⟩ := frameLine_eq frame
  obtain ⟨kind', hkind', heq'⟩ := frameLine_eq other
  rw [heq, heq'] at hline
  have hchars := congrArg String.toList hline
  simp only [String.toList_append] at hchars
  -- The kinds have one length, so the digits begin at the same place in both lines.
  have hhead : (kind.toList ++ " ".toList).length = (kind'.toList ++ " ".toList).length := by
    simp only [List.length_append, String.length_toList, hkind, hkind']
  have hhex : Hex.encode frame = Hex.encode other := String.toList_inj.mp (List.append_inj_right hchars hhead)
  have hback := congrArg Hex.decode hhex
  rw [Hex.decode_encode, Hex.decode_encode] at hback
  exact Option.some.inj hback

/-- The line of the first bytes of a frame is that of the frame where there are no more. -/
theorem frameLine_take_eq_iff {length : Nat} {frame : Bytes} :
    frameLine (frame.take length) = frameLine frame ↔ frame.length ≤ length := by
  constructor
  · intro hline
    have hwhole := congrArg List.length (frameLine_injective hline)
    rw [List.length_take] at hwhole
    omega
  · intro hfits
    rw [List.take_of_length_le hfits]

/-! ## What the loop prints -/

/-- A read stores what it counts, and no more than the buffer holds. -/
def Exact (arrival : Int × Bytes) : Prop := arrival.1 = arrival.2.length ∧ arrival.2.length ≤ bufferLength

/-- The loop prints a line for each read that has brought something, of what was stored by it. -/
theorem Frames.printed_eq (hframes : Frames devId fd budget wanted buffer made outcome)
    (hbuffer : buffer.length = bufferLength) (hexact : ∀ arrival ∈ arrivals made, Exact arrival) :
    printed made = (arrivals made).map fun arrival => frameLine arrival.2 := by
  -- Over the rounds: a round that goes on prints one line, and a round that ends the loop prints none.
  induction hframes with
  | enough | unseen => rfl
  | @ended _ _ _ stored status hwanted hret =>
    have hnone : Sign.arrival? (readInto fd status stored) = none := if_neg (by omega)
    have harrivals : arrivals [readInto fd status stored, readNote devId status] = [] := by
      rw [arrivals, List.filterMap_cons_none hnone]
      rfl
    rw [harrivals]
    rfl
  | @broken _ _ _ stored status hwanted hret =>
    have hnone : Sign.arrival? (readInto fd status stored) = none := if_neg (by omega)
    have harrivals : arrivals [readInto fd status stored] = [] := List.filterMap_cons_none hnone
    rw [harrivals]
    rfl
  -- No read counts more than it has stored here.
  | @overrun _ _ _ stored status hwanted hret =>
    have hsome : Sign.arrival? (readInto fd status stored) = some (status.ret, stored) := if_pos (by omega)
    have hmem : (status.ret, stored) ∈ arrivals [readInto fd status stored, readNote devId status] := by
      rw [arrivals, List.filterMap_cons_some hsome]
      exact List.mem_cons_self
    obtain ⟨hcount, hroom⟩ := hexact _ hmem
    omega
  | @frame _ _ buffer stored status made _ hwanted hpositive hroom hrest ih =>
    have hsome : Sign.arrival? (readInto fd status stored) = some (status.ret, stored) := if_pos hpositive
    have harrivals : arrivals (readInto fd status stored :: readNote devId status ::
        .said (.line (frameLine ((Bytes.overlay stored buffer).take status.ret.toNat))) :: made) =
          (status.ret, stored) :: arrivals made := List.filterMap_cons_some hsome
    rw [harrivals] at hexact ⊢
    obtain ⟨hcount, hfits⟩ := hexact _ List.mem_cons_self
    -- The buffer holds what earlier reads have left behind the frame, and the count cuts that off.
    have hshown : (Bytes.overlay stored buffer).take status.ret.toNat = stored := by
      have hnat : status.ret.toNat = stored.length := by
        simp only at hcount
        omega
      rw [hnat, Bytes.take_overlay (by rw [hbuffer]; exact hfits)]
    have hlater := ih ((Bytes.length_overlay ..).trans hbuffer) fun _ hmem => hexact _ (List.mem_cons_of_mem _ hmem)
    rw [hshown, List.map_cons, ← hlater]
    rfl

/-! ## What a dump prints -/

/-- The shutdown neither prints nor reads. -/
theorem silent_shut {status : Status} (hshut : Shut fd status made) : Silent made := by
  obtain ⟨sent, noted, later, rfl⟩ := hshut
  intro sign hmem
  rcases List.mem_cons.mp hmem with rfl | hmem
  · exact ⟨rfl, rfl⟩
  rcases List.mem_append.mp hmem with hmem | hmem
  · exact silent_ofLog noted sign hmem
  rcases List.mem_cons.mp hmem with rfl | hmem
  · exact ⟨rfl, rfl⟩
  · exact silent_ofLog later sign hmem

theorem silent_reset {wanted : Bool} (hreset : ResetSent devId fd wanted made outcome) : Silent made := by
  intro sign hmem
  cases hreset with
  | unwanted => cases hmem
  | sent =>
    rcases List.mem_cons.mp hmem with rfl | hmem
    · exact ⟨rfl, rfl⟩
    · cases List.mem_singleton.mp hmem
      exact ⟨rfl, rfl⟩
  | failed =>
    cases List.mem_singleton.mp hmem
    exact ⟨rfl, rfl⟩

/-- A line for each read that has brought something, and no other. -/
theorem Dumped.printed_eq (hdumped : Dumped devId fd budget options made outcome)
    (hexact : ∀ arrival ∈ arrivals made, Exact arrival) :
    printed made = (arrivals made).map fun arrival => frameLine arrival.2 := by
  cases hdumped with
  | @notReset reset shut _ _ hreset hfailed hshut =>
    have hsilent : Silent (.said (.log (.opened devId)) :: (reset ++ shut)) := by
      intro sign hmem
      rcases List.mem_cons.mp hmem with rfl | hmem
      · exact ⟨rfl, rfl⟩
      rcases List.mem_append.mp hmem with hmem | hmem
      · exact silent_reset hreset sign hmem
      · exact silent_shut hshut sign hmem
    rw [hsilent.printed_eq, hsilent.arrivals_eq]
    rfl
  | @left reset frames shut _ _ hreset hframes hshut =>
    have hprinted : printed (.said (.log (.opened devId)) :: (reset ++ frames ++ shut)) = printed frames := by
      show printed (reset ++ frames ++ shut) = _
      rw [printed_append, printed_append, (silent_reset hreset).printed_eq, (silent_shut hshut).printed_eq,
        List.nil_append, List.append_nil]
    have harrivals : arrivals (.said (.log (.opened devId)) :: (reset ++ frames ++ shut)) = arrivals frames := by
      show arrivals (reset ++ frames ++ shut) = _
      rw [arrivals_append, arrivals_append, (silent_reset hreset).arrivals_eq, (silent_shut hshut).arrivals_eq,
        List.nil_append, List.append_nil]
    rw [harrivals] at hexact
    rw [hprinted, harrivals]
    exact hframes.printed_eq (Bytes.length_zeros _) hexact

theorem exact_cut (frame : Bytes) : Exact (cut bufferLength frame) :=
  ⟨rfl, List.length_take_le ..⟩

/-- What is printed on a channel whose reads have brought frames. -/
theorem Dumped.printed_cut (hdumped : Dumped devId fd budget options made outcome) {frames : List Bytes}
    (hframes : arrivals made = frames.map (cut bufferLength)) :
    printed made = frames.map fun frame => frameLine (frame.take bufferLength) := by
  -- A frame that was cut counts what is left of it.
  have hexact : ∀ arrival ∈ arrivals made, Exact arrival := by
    rw [hframes]
    intro arrival hmem
    obtain ⟨frame, -, rfl⟩ := List.mem_map.mp hmem
    exact exact_cut frame
  rw [hdumped.printed_eq hexact, hframes, List.map_map]
  rfl

/-- **What a dump prints for a frame is the line of what fits into its buffer**, and that is the line of the
frame exactly if the frame fits. Each read brings one frame here, as far as there is room. -/
theorem prints_cut (hruns : (RawSocket.lower (runDump budget options) .absent).Runs made (socket, outcome))
    (hopens : Opens options made opening rest live (.ok devId)) {frames : List Bytes}
    (hframes : arrivals rest = frames.map (cut bufferLength)) :
    printed rest = frames.map (fun frame => frameLine (frame.take bufferLength)) ∧
      ∀ frame ∈ frames, frameLine (frame.take bufferLength) = frameLine frame ↔ frame.length ≤ bufferLength :=
  ⟨(dumped_of_opens hruns hopens).2.printed_cut hframes, fun _ _ => frameLine_take_eq_iff⟩

/-- A packet of 1021 bytes behind its header, as controllers commonly send. -/
def aclFrame : Bytes := [0x02, 0x40, 0x00, 0xfd, 0x03] ++ List.replicate 1021 0xa5

/-- A kernel that grants everything and brings that packet. -/
def bringsAcl : (call : KernelCall) → call.Answer
  | .socket _ _ _ => (⟨3, 0⟩ : Status)
  | .control _ _ _ | .bind _ _ | .close _ => (⟨0, 0⟩ : Status)
  | .deviceInfo _ _ record => ((⟨0, 0⟩, record) : Status × Bytes)
  | .deviceList _ _ request => ((⟨0, 0⟩, request) : Status × DeviceListRequest)
  | .poll _ _ _ _ => ((⟨0, 0⟩, 0) : Status × Int)
  | .read _ _ => ((⟨1024, 0⟩, aclFrame.take 1024) : Status × Bytes)
  | .write _ frame => (⟨frame.length, 0⟩ : Status)

/-- A dump of one frame. -/
def single : DumpOptions := ⟨0, some 1, false, 20⟩

/-- What is seen of it where that packet comes in. -/
def singleRun : Trace Kernel := ((RawSocket.lower (runDump 1 single) .absent).follow bringsAcl).1

/-- What is seen of its open. -/
def singleOpening : Trace Kernel :=
  ((RawSocket.lower (Open.channel (.index 0) single.openConfig) .absent).follow bringsAcl).1

/-- What is seen after its open. -/
def singleRest : Trace Kernel := ((RawSocket.lower (afterOpen 1 single 0) ⟨3, false⟩).follow bringsAcl).1

theorem runs_singleRun : (RawSocket.lower (runDump 1 single) .absent).Runs singleRun (⟨3, true⟩, .success) :=
  Program.runs_follow (I := Kernel) bringsAcl (RawSocket.lower (runDump 1 single) .absent)

theorem opens_singleRun : Opens single singleRun singleOpening singleRest ⟨3, false⟩ (.ok 0) := by
  refine ⟨rfl, .index 0, rfl, ?_⟩
  exact Program.runs_follow (I := Kernel) bringsAcl
    (RawSocket.lower (Open.channel (.index 0) single.openConfig) .absent)

/-- The packet is two bytes longer than the buffer. -/
theorem length_aclFrame : aclFrame.length = 1026 := by
  rw [aclFrame, List.length_append, List.length_replicate]
  rfl

theorem arrivals_singleRest : arrivals singleRest = [aclFrame].map (cut bufferLength) := by
  have hcount : (aclFrame.take bufferLength).length = 1024 := by
    rw [List.length_take, length_aclFrame]
    rfl
  rw [List.map_singleton, cut, hcount]
  rfl

/-- The line of the packet is made of what is left of it. -/
theorem prints_cut_aclFrame :
    (RawSocket.lower (runDump 1 single) .absent).Runs singleRun (⟨3, true⟩, .success) ∧
      Opens single singleRun singleOpening singleRest ⟨3, false⟩ (.ok 0) ∧
      arrivals singleRest = [aclFrame].map (cut bufferLength) ∧
      printed singleRest = [aclFrame].map (fun frame => frameLine (frame.take bufferLength)) :=
  ⟨runs_singleRun, opens_singleRun, arrivals_singleRest,
    (prints_cut runs_singleRun opens_singleRun arrivals_singleRest).1⟩

/-- The dump prints one line and ends in success, and the line is not that of the packet. -/
theorem aclFrame_cut :
    (RawSocket.lower (runDump 1 single) .absent).Runs singleRun (⟨3, true⟩, .success) ∧
      Opens single singleRun singleOpening singleRest ⟨3, false⟩ (.ok 0) ∧
      arrivals singleRest = [aclFrame].map (cut bufferLength) ∧ aclFrame.length = 1026 ∧
      printed singleRest ≠ [frameLine aclFrame] := by
  refine ⟨runs_singleRun, opens_singleRun, arrivals_singleRest, length_aclFrame, fun hprinted => ?_⟩
  have hline := (dumped_of_opens runs_singleRun opens_singleRun).2.printed_cut arrivals_singleRest
  rw [hprinted] at hline
  -- Were it the line of the packet, the packet would fit.
  have hfits := frameLine_take_eq_iff.mp (List.cons.inj hline).1.symm
  rw [length_aclFrame] at hfits
  exact absurd hfits (by decide)

end CommandLine

end HciTransport
