import HciTransport.Proofs.CommandLine.Lines
import HciTransport.Proofs.Said
import HciTransport.Proofs.Text.Hex

/-!
# The reads of a dump and the lines it prints

A dump goes on reading until it is over: a read is empty or fails, or as many frames as wanted have come in
(`Over`). `Looked` keeps the results and the end of the loop in step, from round to round
(`Looked.cons`), and so over the whole loop (`Frames.looked`). The lines were read off the same table
before (`Dumped.printed_eq`); here each of them is taken apart again (`shows_frameLine`).

What is printed is printed by the loop: to open a channel prints nothing, whatever the kernel answers
(`printed_of_opened`). So the lines of a whole run are those of the frames that it has read (`dumpsExactly`).
-/

namespace HciTransport

/-! ## Programs that print nothing -/

/-- All that is said goes to the log. -/
def Event.IsLogged : Event → Prop
  | .log _ => True
  | .line _ => False

/-- Whatever it is answered, the program prints nothing. -/
abbrev Program.Mute {I : Interface} {α : Type} (p : Program I α) : Prop := p.Says Event.IsLogged

/-- A run of such a program has no lines. -/
theorem Program.Mute.printed_eq {I : Interface} {α : Type} {p : Program I α} {trace : Trace I} {value : α}
    (hmute : p.Mute) (hruns : p.Runs trace value) : printed trace = [] := by
  refine List.filterMap_eq_nil_iff.mpr fun sign hmem => ?_
  cases sign with
  | asked => rfl
  | said event =>
    have hlogged := hmute _ _ hruns event hmem
    cases event with
    | log => rfl
    | line => cases hlogged

/-! ### Opens -/

namespace Open

open Control Program

variable (devId : UInt16) (config : OpenConfig)

theorem mute_issue (op : ControlOp) : Mute (issue op devId) := .emit trivial (.call fun _ => .done _)

theorem mute_drain : Mute (drain devId config) := by
  refine .call fun answer => ?_
  rcases answer with cause | _ | _
  · exact .emit trivial (.done _)
  · exact .done _
  · refine .call fun receipt => ?_
    rcases receipt with ⟨stored, cause | count⟩
    · exact .emit trivial (.done _)
    · exact .emit trivial (.done _)

theorem mute_prepare : Mute (prepare devId config) := by
  -- The three control operations and the bind in turn, and the draining behind them.
  refine (mute_issue devId .down).andThen fun _ => (mute_issue devId .up).andThen fun _ =>
    (mute_issue devId .down).andThen fun _ => .andThen ?_ fun _ => (mute_drain devId config).bind fun _ => .done _
  refine .call fun answer => ?_
  rcases answer with cause | _
  · exact .done _
  · exact .emit trivial (.done _)

/-- Refusals go to the log. -/
theorem mute_probeFrom (failures : String) (ids : List UInt16) : Mute (probeFrom config failures ids) := by
  -- Along the candidates, with whatever failures there were.
  induction ids generalizing failures with
  | nil => exact .done _
  | cons devId ids ih =>
    refine (mute_prepare devId config).bind fun outcome => ?_
    cases outcome with
    | ok => exact .done _
    | error error => exact .emit trivial (ih _)

theorem mute_select (selector : DeviceSelector) : Mute (select selector config) := by
  cases selector with
  | index devId => exact (mute_prepare devId config).andThen fun _ => .done _
  | any => exact .andThen (.call fun _ => .done _) fun entries => .emit trivial (mute_probeFrom config "" _)

theorem mute_channel (selector : DeviceSelector) : Mute (channel selector config) := by
  refine .call fun answer => ?_
  rcases answer with cause | _
  · exact .done _
  · refine (mute_select config selector).bind fun outcome => ?_
    cases outcome with
    | ok => exact .done _
    | error => exact .call fun _ => .done _

end Open

/-! ### Raw sockets -/

variable {socket socket' : RawSocket} {asked : Trace Descriptor} {made : Trace Kernel}

theorem RawSocket.mute_giveBack (socket : RawSocket) : socket.giveBack.Mute := by
  rw [giveBack]
  split
  · exact .done _
  · exact .call fun _ => .done _

/-- To serve a request prints nothing. -/
theorem RawSocket.mute_answer (socket : RawSocket) (call : DescriptorCall) : (socket.answer call).Mute := by
  cases call with
  | create =>
    refine .call fun status => ?_
    cases Status.unlessNegative status () with
    | ok => exact .done _
    | error => exact .done _
  | deviceInfo record =>
    rw [answer]
    split
    · exact .done _
    · exact .call fun _ => .done _
  | release => exact socket.mute_giveBack
  | discard => exact socket.mute_giveBack.bind fun _ => .done _
  | _ => exact .call fun _ => .done _

/-- What is printed is what the program prints whose requests were served. -/
theorem Served.printed_eq (hserved : Served socket asked made socket') : printed made = printed asked := by
  induction hserved with
  | nil => rfl
  | said event hrest ih =>
    cases event with
    | log => exact ih
    | line text => exact congrArg (text :: ·) ih
  -- The calls of a request print nothing, so only the program does.
  | @asked _ _ _ asked _ _ call answer hanswer hrest ih =>
    rw [printed_append, (RawSocket.mute_answer _ _).printed_eq hanswer, ih]
    rfl

/-- To open a channel prints nothing. -/
theorem printed_of_opened {selector : DeviceSelector} {config : OpenConfig} {result : Except HciError UInt16}
    (hruns : (RawSocket.lower (Open.channel selector config) .absent).Runs made (socket, result)) :
    printed made = [] := by
  obtain ⟨asked, hasked, hserved⟩ := runs_lower_iff.mp hruns
  rw [hserved.printed_eq]
  exact (Open.mute_channel config selector).printed_eq hasked

/-! ## The results of reads -/

/-- What a read was answered: its status, and what it has stored. -/
abbrev Reading := Status × Bytes

/-- The answer to a read. -/
def Sign.reading? : Sign Kernel → Option Reading
  | .asked (.read _ _) answer => some answer
  | .asked _ _ | .said _ => none

/-- The results of the reads, in order. -/
def readings (made : Trace Kernel) : List Reading := made.filterMap Sign.reading?

theorem readings_append {before after : Trace Kernel} :
    readings (before ++ after) = readings before ++ readings after := List.filterMap_append

/-- Only reads have results. -/
theorem readings_eq_nil {made : Trace Kernel} (hnone : ∀ fd length, .read fd length ∉ made.calls) :
    readings made = [] := by
  refine List.filterMap_eq_nil_iff.mpr fun sign hmem => ?_
  cases sign with
  | said => rfl
  | asked call answer =>
    cases call with
    | read fd length =>
      refine absurd ?_ (hnone fd length)
      exact List.mem_filterMap.mpr ⟨_, hmem, rfl⟩
    | _ => rfl

/-- The frame that a read has brought, unless it was empty or has failed. -/
def Reading.frame? (reading : Reading) : Option Bytes := if 0 < reading.1.ret then some reading.2 else none

/-- The frames that were brought, in order. -/
def framesOf (results : List Reading) : List Bytes := results.filterMap Reading.frame?

/-- The frames of the results are what has come in. -/
theorem framesOf_readings (made : Trace Kernel) : framesOf (readings made) = (arrivals made).map (·.2) := by
  rw [framesOf, readings, arrivals, List.filterMap_filterMap, List.map_filterMap]
  refine List.filterMap_congr fun sign _ => ?_
  cases sign with
  | said => rfl
  | asked call answer =>
    cases call with
    | read fd length =>
      obtain ⟨status, stored⟩ := answer
      show (if 0 < status.ret then some stored else none) = Option.map _ (if 0 < status.ret then _ else none)
      split <;> rfl
    | _ => rfl

namespace CommandLine

variable {devId : UInt16} {budget : Nat} {options : DumpOptions} {wanted : Option Nat} {buffer : Bytes}
  {socket live : RawSocket} {made opening rest : Trace Kernel} {outcome : Outcome} {fd : Int}
  {results part : List Reading} {status : Status} {stored : Bytes}

/-- An error, or as many bytes as it counts, and the buffer has room for them. -/
def Sound (reading : Reading) : Prop :=
  reading.1.ret < 0 ∨ reading.1.ret = reading.2.length ∧ reading.2.length ≤ bufferLength

/-- After these results a dump is over: one of them is empty or an error, or they have brought as many frames as
are wanted. -/
def Over (wanted : Option Nat) (results : List Reading) : Prop :=
  (∃ reading ∈ results, reading.frame? = none) ∨ ∃ count, wanted = some count ∧ count ≤ (framesOf results).length

/-- Before the first read a dump is not over, unless it wants no frame. -/
theorem not_over_nil (hwanted : wanted ≠ some 0) : ¬ Over wanted [] := by
  rintro (⟨reading, hmem, -⟩ | ⟨count, rfl, hcount⟩)
  · cases hmem
  · cases Nat.le_zero.mp hcount
    exact hwanted rfl

/-- A frame counts for one of those that are wanted. -/
theorem over_cons_iff (hwanted : wanted ≠ some 0) (hsome : 0 < status.ret) :
    Over wanted ((status, stored) :: results) ↔ Over (wanted.map (· - 1)) results := by
  have hframe : Reading.frame? (status, stored) = some stored := if_pos hsome
  have hframes : framesOf ((status, stored) :: results) = stored :: framesOf results := List.filterMap_cons_some hframe
  -- The frame is not the read that ends a dump.
  have hlast : (∃ reading ∈ (status, stored) :: results, Reading.frame? reading = none) ↔
      ∃ reading ∈ results, Reading.frame? reading = none := by
    simp [hframe]
  unfold Over
  rw [hlast, hframes, List.length_cons]
  refine or_congr_right ?_
  cases wanted with
  | none => simp
  | some count =>
    have hcount : count ≠ 0 := fun hzero => hwanted (congrArg some hzero)
    simp only [Option.map_some, Option.some.injEq, exists_eq_left']
    omega

/-- A dump that is over stays so. -/
theorem Over.mono (hover : Over wanted part) (hpart : part <+: results) : Over wanted results := by
  -- The read that ended it is still there, or the frames are.
  rcases hover with ⟨reading, hmem, hlast⟩ | ⟨count, hwanted, hcount⟩
  · exact .inl ⟨reading, hpart.subset hmem, hlast⟩
  · have hfewer : (framesOf part).length ≤ (framesOf results).length := (hpart.filterMap _).length_le
    exact .inr ⟨count, hwanted, hcount.trans hfewer⟩

/-! ## The loop -/

/-- The loop had `budget` reads to look at, has looked at these results, and has ended so. -/
structure Looked (budget : Nat) (wanted : Option Nat) (results : List Reading) (outcome : Outcome) : Prop where
  /-- Nothing is read once the dump is over. -/
  no_more : ∀ part, part <+: results → Over wanted part → part = results
  finished : outcome ≠ .unfinished → Over wanted results
  unseen : outcome = .unfinished → ¬ Over wanted results ∧ results.length = budget

/-- A round of the loop that brings a frame. -/
theorem Looked.cons (hwanted : wanted ≠ some 0) (hsome : 0 < status.ret)
    (hlooked : Looked budget (wanted.map (· - 1)) results outcome) :
    Looked (budget + 1) wanted ((status, stored) :: results) outcome where
  -- A part that is over has this round in it, since nothing was over before.
  no_more part hpart hover := by
    cases part with
    | nil => exact absurd hover (not_over_nil hwanted)
    | cons first part =>
      obtain ⟨rfl, hlater⟩ := List.cons_prefix_cons.mp hpart
      exact congrArg _ (hlooked.no_more part hlater ((over_cons_iff hwanted hsome).mp hover))
  finished hseen := (over_cons_iff hwanted hsome).mpr (hlooked.finished hseen)
  unseen hunseen := by
    obtain ⟨hnot, hlength⟩ := hlooked.unseen hunseen
    exact ⟨fun hover => hnot ((over_cons_iff hwanted hsome).mp hover), congrArg (· + 1) hlength⟩

/-- The last round of the loop. -/
theorem Looked.last (hwanted : wanted ≠ some 0) (hlast : ¬ 0 < status.ret) (hseen : outcome ≠ .unfinished) :
    Looked (budget + 1) wanted [(status, stored)] outcome where
  no_more part hpart hover := by
    cases part with
    | nil => exact absurd hover (not_over_nil hwanted)
    | cons first part =>
      obtain ⟨rfl, hlater⟩ := List.cons_prefix_cons.mp hpart
      rw [List.prefix_nil.mp hlater]
  finished _ := .inl ⟨_, List.mem_singleton_self _, if_neg hlast⟩
  unseen hunseen := absurd hunseen hseen

/-- The loop looks at its results up to the one after which the dump is over. -/
theorem Frames.looked (hframes : Frames devId fd budget wanted buffer made outcome)
    (hsound : ∀ reading ∈ readings made, Sound reading) : Looked budget wanted (readings made) outcome := by
  -- Over the rounds, and the last of them decides how the loop has ended.
  induction hframes with
  | enough =>
    refine ⟨fun part hpart _ => List.prefix_nil.mp hpart, fun _ => .inr ⟨0, rfl, Nat.zero_le _⟩, nofun⟩
  | unseen hwanted =>
    exact ⟨fun part hpart _ => List.prefix_nil.mp hpart, fun hseen => absurd rfl hseen,
      fun _ => ⟨not_over_nil hwanted, rfl⟩⟩
  | ended hwanted hret => exact .last hwanted (by omega) nofun
  | broken hwanted hret => exact .last hwanted (by omega) nofun
  | @overrun _ _ _ stored status hwanted hret =>
    -- A read that keeps to its room does not end so.
    rcases hsound (status, stored) List.mem_cons_self with hfailed | ⟨hcount, hroom⟩ <;> simp only at * <;> omega
  | frame hwanted hsome hroom hrest ih =>
    exact .cons hwanted hsome (ih fun reading hmem => hsound reading (List.mem_cons_of_mem _ hmem))

/-- The loop asks for a read for each result, and for nothing else. -/
theorem Frames.calls_readings (hframes : Frames devId fd budget wanted buffer made outcome) :
    made.calls = List.replicate (readings made).length (.read fd bufferLength) := by
  induction hframes with
  | enough | unseen | ended | broken | overrun => rfl
  | frame hwanted hsome hroom hrest ih => exact congrArg (.read fd bufferLength :: ·) ih

/-! ## A line -/

/-- The kind of a frame that begins with this byte. -/
def kindText : UInt8 → String
  | 1 => "CMD"
  | 2 => "ACL"
  | 3 => "SCO"
  | 4 => "EVT"
  | 5 => "ISO"
  | _ => "???"

/-- The line shows the frame: the kind that its first byte tells, a space, and its bytes in digits. -/
def Shows (frame : Bytes) (line : String) : Prop :=
  ∃ first later digits, frame = first :: later ∧ line = kindText first ++ " " ++ digits ∧ Hex.IsLower digits ∧
    Hex.decode digits = some frame

/-- The kind of a frame is that of its first byte. -/
theorem kindText_eq (first : UInt8) :
    kindText first = ((PacketKind.ofIndicator? first).map PacketKind.short).getD "???" := by
  unfold kindText
  split
  · rfl
  · rfl
  · rfl
  · rfl
  · rfl
  -- Any other byte is the indicator of no kind.
  · next hcommand hacl hsco hevent hiso =>
    have hnone : PacketKind.ofIndicator? first = none := by
      refine List.find?_eq_none.mpr fun kind _ hkind => ?_
      have hfirst : first = kind.indicator := (of_decide_eq_true hkind).symm
      cases kind with
      | command => exact hcommand hfirst
      | acl => exact hacl hfirst
      | sco => exact hsco hfirst
      | event => exact hevent hfirst
      | iso => exact hiso hfirst
    rw [hnone]
    rfl

/-- A line is made of the kind and of the digits of all bytes. -/
theorem frameLine_cons (first : UInt8) (later : Bytes) :
    frameLine (first :: later) = kindText first ++ " " ++ Hex.encode (first :: later) := by
  have hbyte : Bytes.byteAt (first :: later) 0 = first := rfl
  rw [kindText_eq, frameLine, hbyte]
  cases PacketKind.ofIndicator? first <;> rfl

/-- The line of a frame shows it. -/
theorem shows_frameLine {frame : Bytes} (hsome : frame ≠ []) : Shows frame (frameLine frame) := by
  obtain ⟨first, later, rfl⟩ := List.exists_cons_of_ne_nil hsome
  exact ⟨first, later, _, rfl, frameLine_cons first later, Hex.isLower_encode _, Hex.decode_encode _⟩

/-! ## A whole run -/

/-- A reset that is wanted is granted. -/
def ResetGranted (fd : Int) (rest : Trace Kernel) : Prop :=
  ∀ status, Sign.asked (KernelCall.write fd resetFrame) status ∈ rest → 0 ≤ Status.ret status

/-- Where the reset is granted the loop is reached. -/
theorem Dumped.left_of_granted (hdumped : Dumped devId fd budget options rest outcome)
    (hgranted : ResetGranted fd rest) :
    ∃ (reset frames shut : Trace Kernel) (left : Outcome) (status : Status),
      rest = .said (.log (.opened devId)) :: (reset ++ frames ++ shut) ∧
        ResetSent devId fd options.sendReset reset .success ∧
          Frames devId fd budget options.count (Bytes.zeros bufferLength) frames left ∧
            Shut fd status shut ∧ outcome = shutOutcome status left := by
  cases hdumped with
  | @notReset reset shut _ _ hreset hfailed hshut =>
    -- Whether a reset is wanted is named, so that the cases of it can be told apart.
    generalize options.sendReset = wanted at hreset
    cases hreset with
    | unwanted | sent => exact absurd rfl hfailed
    | @failed status hret =>
      have hreached := hgranted status (by simp)
      omega
  | left hreset hframes hshut => exact ⟨_, _, _, _, _, rfl, hreset, hframes, hshut, rfl⟩

/-- Neither the reset nor the shutdown reads. -/
theorem readings_left {reset frames shut : Trace Kernel} {wanted : Bool} {reached : Outcome}
    (hreset : ResetSent devId fd wanted reset reached) (hshut : Shut fd status shut) :
    readings (.said (.log (.opened devId)) :: (reset ++ frames ++ shut)) = readings frames := by
  have hfirst : readings reset = [] := by
    refine readings_eq_nil fun fd length => ?_
    rw [calls_of_reset hreset]
    split <;> simp
  have hlast : readings shut = [] := by
    refine readings_eq_nil fun fd length => ?_
    rw [calls_of_shut hshut]
    simp
  show readings (reset ++ frames ++ shut) = _
  rw [readings_append, readings_append, hfirst, hlast, List.nil_append, List.append_nil]

theorem mem_readings_of_arrival {arrival : Int × Bytes} (hmem : arrival ∈ arrivals made) :
    ∃ status, (status, arrival.2) ∈ readings made ∧ 0 < Status.ret status ∧ arrival.1 = Status.ret status := by
  obtain ⟨sign, hsign, harrival⟩ := List.mem_filterMap.mp hmem
  cases sign with
  | said => cases harrival
  | asked call answer =>
    cases call with
    | read fd length =>
      obtain ⟨status, stored⟩ := answer
      obtain ⟨hsome, hsame⟩ := Option.ite_none_right_eq_some.mp harrival
      cases hsame
      exact ⟨status, List.mem_filterMap.mpr ⟨_, hsign, rfl⟩, hsome, rfl⟩
    | _ => cases harrival

theorem Sound.exact (hsound : Sound (status, stored)) (hsome : 0 < status.ret) : Exact (status.ret, stored) := by
  rcases hsound with hfailed | hexact
  · simp only at hfailed
    omega
  · exact hexact

theorem exact_of_sound (hsound : ∀ reading ∈ readings made, Sound reading) :
    ∀ arrival ∈ arrivals made, Exact arrival := by
  intro arrival hmem
  obtain ⟨status, hreading, hsome, hcount⟩ := mem_readings_of_arrival hmem
  have hexact := (hsound _ hreading).exact hsome
  rwa [← hcount] at hexact

/-- A frame that has come in is not empty. -/
theorem ne_nil_of_sound {frame : Bytes} (hsound : ∀ reading ∈ results, Sound reading)
    (hmem : frame ∈ framesOf results) : frame ≠ [] := by
  obtain ⟨⟨status, stored⟩, hreading, hframe⟩ := List.mem_filterMap.mp hmem
  obtain ⟨hsome, hsame⟩ := Option.ite_none_right_eq_some.mp hframe
  cases hsame
  intro hempty
  have hcount : status.ret = stored.length := ((hsound _ hreading).exact hsome).1
  simp only at hempty hsome
  rw [hempty, List.length_nil] at hcount
  omega

/-- What a dump reads and prints that has opened its channel on the number `fd`; `rest` is what follows the
open. -/
structure DumpsExactly (budget : Nat) (options : DumpOptions) (fd : Int) (made rest : Trace Kernel)
    (outcome : Outcome) : Prop where
  /-- Between the reset, if it is wanted, and the shutdown it reads and does nothing else. -/
  asks : rest.calls = (if options.sendReset then [.write fd resetFrame] else []) ++
    List.replicate (readings rest).length (.read fd bufferLength) ++ [.write fd closeFrame, .close fd]
  none_wanted : options.count = some 0 → readings rest = []
  /-- Whatever results are to come, those that are read are the first after which the dump is over. -/
  reads : outcome ≠ .unfinished → ∀ supply, readings rest <+: supply → ∀ part, part <+: supply →
    (Over options.count part ↔ readings rest <+: part)
  /-- A run that is not followed to its end has made all the reads that it is followed for, and more are due. -/
  goes_on : outcome = .unfinished → (readings rest).length = budget ∧ ¬ Over options.count (readings rest)
  /-- There is one line for each frame that was read, in the same order, whatever ended the dump. -/
  lines : List.Forall₂ Shows (framesOf (readings rest)) (printed made)

/-- **A dump prints the frames that it has read, and reads no more than it is asked for.** -/
theorem dumpsExactly (hruns : (RawSocket.lower (runDump budget options) .absent).Runs made (socket, outcome))
    (hopens : Opens options made opening rest live (.ok devId)) (hgranted : ResetGranted live.fd rest)
    (hsound : ∀ reading ∈ readings rest, Sound reading) :
    DumpsExactly budget options live.fd made rest outcome := by
  have hdumped := (dumped_of_opens hruns hopens).2
  have hprinted := hdumped.printed_eq (exact_of_sound hsound)
  obtain ⟨reset, frames, shut, left, status, rfl, hreset, hframes, hshut, rfl⟩ := hdumped.left_of_granted hgranted
  have hreadings := @readings_left devId live.fd status reset frames shut _ _ hreset hshut
  have hlooked : Looked budget options.count (readings frames) left := hframes.looked (hreadings ▸ hsound)
  -- The shutdown leaves no loop unfinished that was over.
  have hseen : shutOutcome status left ≠ .unfinished → left ≠ .unfinished := by
    rintro hended rfl
    exact hended rfl
  refine ⟨?_, ?_, ?_, ?_, ?_⟩
  · rw [hreadings, Trace.calls_said, Trace.calls_append, Trace.calls_append, calls_of_reset hreset,
      hframes.calls_readings, calls_of_shut hshut]
  · intro hnone
    rw [hreadings]
    exact (hlooked.no_more [] (List.nil_prefix ..) (.inr ⟨0, hnone, Nat.zero_le _⟩)).symm
  · rw [hreadings]
    intro hended supply hmade part hpart
    constructor
    · intro hover
      -- Of two parts of one supply one is the start of the other.
      rcases List.prefix_or_prefix_of_prefix hpart hmade with hfewer | hmore
      · obtain rfl := hlooked.no_more part hfewer hover
        exact List.prefix_refl _
      · exact hmore
    · intro hmore
      exact (hlooked.finished (hseen hended)).mono hmore
  · rw [hreadings]
    intro hunfinished
    exact (hlooked.unseen (unfinished_of_shut hunfinished)).symm
  · obtain ⟨selector, -, hopened⟩ := hopens.runs
    rw [hopens.split, printed_append, printed_of_opened hopened, List.nil_append, hprinted]
    -- What has come in and the frames of the results are the same frames.
    have hsame : (arrivals (.said (.log (.opened devId)) :: (reset ++ frames ++ shut))).map
        (fun arrival => frameLine arrival.2) =
          (framesOf (readings (.said (.log (.opened devId)) :: (reset ++ frames ++ shut)))).map frameLine := by
      rw [framesOf_readings, List.map_map]
      rfl
    rw [hsame, List.forall₂_map_right_iff, List.forall₂_same]
    intro frame hmem
    exact shows_frameLine (ne_nil_of_sound hsound hmem)

/-- A dump of five frames, after a reset. -/
def five : DumpOptions := ⟨0, some 5, true, 20⟩

/-- The open goes well, and no input waits. -/
def fiveOpening : Trace Kernel :=
  ((RawSocket.lower (Open.channel (.index 0) five.openConfig) .absent).follow bringsAcl).1

/-- A frame, and one that is shorter and of no kind. -/
def resetEvent : Bytes := [4, 14, 4, 1, 3, 12, 0]

/-- A frame that is of no kind. -/
def oddFrame : Bytes := [171, 19, 0]

/-- The two come in, and then the read fails. -/
def fiveRest : Trace Kernel :=
  [.said (.log (.opened 0)), .asked (.write 3 resetFrame) (⟨4, 0⟩ : Status), .said (.log (.frameWritten 0 4)),
    readInto 3 ⟨7, 0⟩ resetEvent, readNote 0 ⟨7, 0⟩, .said (.line "EVT 040e0401030c00"),
    readInto 3 ⟨3, 0⟩ oddFrame, readNote 0 ⟨3, 0⟩, .said (.line "??? ab1300"), readInto 3 ⟨-1, 104⟩ [],
    .asked (.write 3 closeFrame) (⟨4, 0⟩ : Status), .said (.log (.closing 0)), .asked (.close 3) (⟨0, 0⟩ : Status)]

/-- The dump of these frames ends in the error of its last read. -/
theorem runs_five : (RawSocket.lower (runDump 9 five) .absent).Runs (fiveOpening ++ fiveRest)
    (⟨3, true⟩, .ofError (.receive (.system 104))) := by
  have hevent : frameLine ((Bytes.overlay resetEvent (Bytes.zeros bufferLength)).take 7) = "EVT 040e0401030c00" := by
    have hshown := @Bytes.take_overlay resetEvent (Bytes.zeros bufferLength) (by simp [resetEvent, bufferLength])
    rw [show 7 = resetEvent.length from rfl, hshown]
    rfl
  have hodd : frameLine ((Bytes.overlay oddFrame (Bytes.overlay resetEvent (Bytes.zeros bufferLength))).take 3) =
      "??? ab1300" := by
    have hshown := @Bytes.take_overlay oddFrame (Bytes.overlay resetEvent (Bytes.zeros bufferLength))
      (by simp [oddFrame, bufferLength])
    rw [show 3 = oddFrame.length from rfl, hshown]
    rfl
  -- The open, the reset, two rounds of the loop and one that fails, and the drop.
  refine .call _ (.emit (.call _ (.emit (.call _ (.emit (.call _ (.call _ (.emit (.call _ ?_)))))))))
  refine .emit (.call _ (.emit ?_))
  refine .call _ (.emit (Program.runs_emit_iff.mpr
    ⟨_, congrArg (fun text => Sign.said (.line text) :: _) hevent.symm, ?_⟩))
  refine .call _ (.emit (Program.runs_emit_iff.mpr
    ⟨_, congrArg (fun text => Sign.said (.line text) :: _) hodd.symm, ?_⟩))
  refine .call _ ?_
  exact .call _ (.emit (.call _ (.done _)))

/-- Three reads are made though five frames are wanted, and both lines are kept. -/
theorem dumpsExactly_five :
    (RawSocket.lower (runDump 9 five) .absent).Runs (fiveOpening ++ fiveRest)
        (⟨3, true⟩, .ofError (.receive (.system 104))) ∧
      Opens five (fiveOpening ++ fiveRest) fiveOpening fiveRest ⟨3, false⟩ (.ok 0) ∧ ResetGranted 3 fiveRest ∧
      (∀ reading ∈ readings fiveRest, Sound reading) ∧
      readings fiveRest = [(⟨7, 0⟩, resetEvent), (⟨3, 0⟩, oddFrame), (⟨-1, 104⟩, [])] ∧
      DumpsExactly 9 five 3 (fiveOpening ++ fiveRest) fiveRest (.ofError (.receive (.system 104))) := by
  have hopens : Opens five (fiveOpening ++ fiveRest) fiveOpening fiveRest ⟨3, false⟩ (.ok 0) := by
    refine ⟨rfl, .index 0, rfl, ?_⟩
    exact Program.runs_follow (I := Kernel) bringsAcl
      (RawSocket.lower (Open.channel (.index 0) five.openConfig) .absent)
  have hgranted : ResetGranted 3 fiveRest := by
    intro status hmem
    simp only [fiveRest, readInto, readNote, List.mem_cons, List.not_mem_nil, reduceCtorEq, or_false, false_or] at hmem
    rcases hmem with hreset | hread | hread | hread | hclose | hclose
    · cases hreset
      decide
    · cases hread
    · cases hread
    · cases hread
    -- The close frame is no reset, so its answer does not matter.
    · have hsame : resetFrame = closeFrame := (KernelCall.write.inj (Sign.asked.inj hclose).1).2
      exact absurd hsame (by decide)
    · cases hclose
  have hsound : ∀ reading ∈ readings fiveRest, Sound reading := by
    intro reading hmem
    have hone : reading ∈ [(⟨7, 0⟩, resetEvent), (⟨3, 0⟩, oddFrame), (⟨-1, 104⟩, [])] := hmem
    simp only [List.mem_cons, List.not_mem_nil, or_false] at hone
    rcases hone with rfl | rfl | rfl
    · exact .inr ⟨rfl, by decide⟩
    · exact .inr ⟨rfl, by decide⟩
    · exact .inl (by decide)
  exact ⟨runs_five, hopens, hgranted, hsound, rfl, dumpsExactly runs_five hopens hgranted hsound⟩

end CommandLine

end HciTransport
