import HciTransport.Proofs.CommandLine.Dump

/-!
# How long the kernel is told to wait

The kernel is told in milliseconds how long to wait for input, in a word with a sign, and a negative number would
have it wait without end. What it is told is the number of whole milliseconds that were asked for, or the longest
wait that the word can hold (`Waits`). A dump takes the milliseconds from its command line, passes them on as a
duration and waits once if its channel gets so far (`DumpWaits`).

Who waits how long is followed through an open by the requests (`timeouts`) and carried over to the calls (`waits`),
since a socket makes one call for each of these requests and none for the others (`Served.waits_eq`).
-/

namespace HciTransport

open RawSocket

/-- How long a request asks to wait. -/
def DescriptorCall.timeout? : DescriptorCall → Option Duration
  | .pollReadable timeout => some timeout
  | .create | .control _ _ | .deviceInfo _ | .listDevices | .bindUserChannel _ | .read _ | .write _ | .release
  | .discard => none

/-- How many milliseconds a call tells the kernel to wait. -/
def KernelCall.millis? : KernelCall → Option Int32
  | .poll _ _ _ millis => some millis
  | .socket _ _ _ | .control _ _ _ | .deviceInfo _ _ _ | .deviceList _ _ _ | .bind _ _ | .read _ _ | .write _ _
  | .close _ => none

/-- The waits that were asked for. -/
def timeouts (asked : Trace Descriptor) : List Duration := asked.calls.filterMap DescriptorCall.timeout?

/-- The waits that the kernel was told, in milliseconds. -/
def waits (made : Trace Kernel) : List Int32 := made.calls.filterMap KernelCall.millis?

variable {socket socket' : RawSocket} {asked : Trace Descriptor} {made before after : Trace Kernel} {devId : UInt16}
  {config : OpenConfig}

theorem timeouts_append (before after : Trace Descriptor) :
    timeouts (before ++ after) = timeouts before ++ timeouts after := by
  rw [timeouts, Trace.calls_append, List.filterMap_append]
  rfl

/-- A request asks for one wait at most. -/
theorem timeouts_asked (request : DescriptorCall) (got : request.Answer) (asked : Trace Descriptor) :
    timeouts (.asked request got :: asked) = request.timeout?.toList ++ timeouts asked := by
  rw [timeouts, Trace.calls_asked, List.filterMap_cons]
  cases request <;> rfl

theorem waits_append : waits (before ++ after) = waits before ++ waits after := by
  rw [waits, Trace.calls_append, List.filterMap_append]
  rfl

/-- A request has the kernel wait as long as it asks. -/
theorem waits_of_answer {request : DescriptorCall} {got : request.Answer}
    (hruns : (socket.answer request).Runs made (socket', got)) :
    waits made = request.timeout?.toList.map Duration.pollMillis := by
  cases request with
  | pollReadable timeout =>
    obtain ⟨answer, rfl, -⟩ := Program.runs_ask_iff.mp hruns
    rfl
  | _ =>
    refine List.filterMap_eq_nil_iff.mpr fun call hmem => ?_
    -- A call that tells the kernel to wait serves no other request.
    have hserves := serves_of_answer hruns hmem
    cases call <;> first | rfl | cases hserves

/-- **The kernel is told to wait where that is asked for**, and nowhere else. -/
theorem Served.waits_eq (hserved : Served socket asked made socket') :
    waits made = (timeouts asked).map Duration.pollMillis := by
  induction hserved with
  | nil => rfl
  | said event hrest ih => exact ih
  | asked hanswer hrest ih => rw [waits_append, waits_of_answer hanswer, ih, timeouts_asked, List.map_append]

/-! ## Opening a channel -/

namespace Open

variable {result : Except HciError UInt16} {failures : String} {ids : List UInt16} {selector : DeviceSelector}

theorem Drained.timeouts_eq (hdrained : Drained devId config asked) : timeouts asked = [config.drainTimeout] := by
  cases hdrained <;> rfl

/-- An attempt asks for a wait if it gets past the bind, and only then. -/
theorem Prepared.timeouts_eq {outcome : Except HciError Unit} (hprepared : Prepared devId config asked outcome) :
    timeouts asked = if outcome.isOk then [config.drainTimeout] else [] := by
  -- The rows that fail end before there is a wait.
  cases hprepared with
  | notDown | notUp | notDownAgain | notBound => rfl
  | bound hdrained =>
    rw [timeouts_append]
    exact hdrained.timeouts_eq

theorem timeouts_refusals {refusals : List Refusal} (hrefused : ∀ refusal ∈ refusals, refusal.Sound config) :
    timeouts (refusals.flatMap Refusal.shown) = [] := by
  refine List.filterMap_eq_nil_iff.mpr fun call hmem => ?_
  obtain ⟨refusal, hrefusal, hmem⟩ := mem_calls_flatMap hmem
  have hnone := (prepared_of_runs (hrefused refusal hrefusal)).timeouts_eq
  exact List.filterMap_eq_nil_iff.mp hnone call hmem

/-- Of all attempts the one that succeeds asks for a wait. -/
theorem Probed.timeouts_eq (hprobed : Probed config failures ids asked result) :
    timeouts asked = if result.isOk then [config.drainTimeout] else [] := by
  cases hprobed with
  | chosen refusals devId later last hrefused haccepted hids htrace hresult =>
    rw [htrace, hresult, timeouts_append, timeouts_refusals hrefused, (prepared_of_runs haccepted).timeouts_eq]
    rfl
  | exhausted refusals hrefused hids htrace hresult =>
    rw [htrace, hresult, timeouts_refusals hrefused]
    rfl

/-- A selection that succeeds asks for one wait, and one that fails for none. -/
theorem timeouts_of_select (hruns : (select selector config).Runs asked result) :
    timeouts asked = if result.isOk then [config.drainTimeout] else [] := by
  cases selector with
  | index devId =>
    rcases selectIndex_cases hruns with ⟨error, rfl, hprepared⟩ | ⟨rfl, hprepared⟩
    · exact hprepared.timeouts_eq
    · exact hprepared.timeouts_eq
  | any =>
    rcases selectAny_cases hruns with ⟨cause, rfl, rfl⟩ | ⟨entries, rest, rfl, hprobed⟩
    · rfl
    · exact hprobed.timeouts_eq

theorem timeouts_of_channel (hruns : (channel selector config).Runs asked result) :
    timeouts asked = if result.isOk then [config.drainTimeout] else [] := by
  -- Nobody waits for a descriptor to be made.
  have hsame : ∀ rest, timeouts (.asked .create (.ok () : Except IoError Unit) :: rest) = timeouts rest :=
    fun _ => rfl
  cases opened_of_runs hruns with
  | notMade cause => rfl
  | refused htried =>
    rw [hsame, timeouts_append, timeouts_of_select htried]
    rfl
  | bound htried => rw [hsame, timeouts_of_select htried]

/-- Whoever opens a channel waits once, and not at all if no channel is opened. -/
theorem waits_of_channel (hruns : (lower (channel selector config) .absent).Runs made (socket, result)) :
    waits made = if result.isOk then [config.drainTimeout.pollMillis] else [] := by
  obtain ⟨asked, hasked, hserved⟩ := runs_lower_iff.mp hruns
  rw [hserved.waits_eq, timeouts_of_channel hasked]
  split <;> rfl

end Open

/-! ## Durations -/

/-- What the kernel is told where this wait is asked for. -/
structure Waits (timeout : Duration) : Prop where
  /-- It is told in one call. -/
  told : ∀ (socket socket' : RawSocket) (made : Trace Kernel) (got : Except IoError Bool),
    (socket.answer (.pollReadable timeout)).Runs made (socket', got) →
      made.calls = [.poll socket.fd pollIn 1 timeout.pollMillis]
  /-- It is told the whole milliseconds, or 2 ^ 31 - 1 where they are more than that. -/
  exact : timeout.pollMillis.toInt = min (timeout.inNanos / 1000000 : Nat) 2147483647
  /-- It is never told to wait without end. -/
  bounded : 0 ≤ timeout.pollMillis.toInt ∧ timeout.pollMillis.toInt ≤ 2147483647
  not_longer : timeout.pollMillis.toInt * 1000000 ≤ timeout.inNanos
  monotone : ∀ longer : Duration, timeout.inNanos ≤ longer.inNanos →
    timeout.pollMillis.toInt ≤ longer.pollMillis.toInt
  /-- What is lost is less than a millisecond, as long as 2 ^ 31 of them are not asked for. -/
  close : timeout.inNanos < 2147483648 * 1000000 → timeout.inNanos < (timeout.pollMillis.toInt + 1) * 1000000

/-- Whatever duration is asked for, the kernel is told all this. -/
theorem waits_of_duration (timeout : Duration) : Waits timeout := by
  have hexact := timeout.toInt_pollMillis
  refine ⟨?_, by omega, by omega, by omega, fun longer hlonger => ?_, fun hfits => by omega⟩
  · intro socket socket' made got hruns
    obtain ⟨answer, rfl, -⟩ := Program.runs_ask_iff.mp hruns
    rfl
  · have hlong := longer.toInt_pollMillis
    -- A longer duration has no fewer whole milliseconds.
    have hmillis : timeout.inNanos / 1000000 ≤ longer.inNanos / 1000000 := Nat.div_le_div_right hlonger
    omega

/-! ## Dumps -/

namespace CommandLine

variable {budget : Nat} {options : DumpOptions} {outcome : Outcome} {fd : Int}

/-- Once its channel is open a dump waits no more. -/
theorem Dumped.waits_eq (hdumped : Dumped devId fd budget options made outcome) : waits made = [] := by
  obtain ⟨reads, hcalls, -⟩ := hdumped.calls_eq
  -- Reads do not tell the kernel how long to wait, and neither do writes.
  have hreads : (List.replicate reads (KernelCall.read fd bufferLength)).filterMap KernelCall.millis? = [] :=
    List.filterMap_eq_nil_iff.mpr fun call hmem => List.eq_of_mem_replicate hmem ▸ rfl
  rw [waits, hcalls, List.filterMap_append, List.filterMap_append, hreads]
  cases options.sendReset <;> rfl

/-- How long a dump has the kernel wait. -/
structure DumpWaits (options : DumpOptions) (made : Trace Kernel) : Prop where
  /-- Every wait has as many milliseconds as the command line says, or the most that there can be. -/
  as_asked : ∀ millis ∈ waits made, millis.toInt = min options.drainMillis.toNat 2147483647
  /-- There is one wait if the channel is opened, and none otherwise. -/
  once : ∀ opening rest socket result, Opens options made opening rest socket result →
    (waits made).length = if result.isOk then 1 else 0

/-- The milliseconds of the command line go to the kernel as they are, as far as the word holds them. -/
theorem toInt_openConfig (options : DumpOptions) :
    options.openConfig.drainTimeout.pollMillis.toInt = min options.drainMillis.toNat 2147483647 := by
  have hmillis : options.openConfig.drainTimeout.inNanos = options.drainMillis.toNat * 1000000 :=
    Duration.inNanos_ofMillis _
  have hexact := options.openConfig.drainTimeout.toInt_pollMillis
  omega

/-- A dump waits while it opens its channel, and never after that. -/
theorem waits_of_opens {opening rest : Trace Kernel} {result : Except HciError UInt16}
    (hruns : (lower (runDump budget options) .absent).Runs made (socket, outcome))
    (hopens : Opens options made opening rest socket' result) :
    waits made = if result.isOk then [options.openConfig.drainTimeout.pollMillis] else [] := by
  obtain ⟨selector, hselector, hopened⟩ := hopens.runs
  -- What follows an open is a reset, reads and a shutdown.
  have hrest : waits rest = [] := by
    rcases dump_cases hruns with ⟨error, hindex, -⟩ | ⟨error, hother⟩ | ⟨_, _, fd, devId, hother, hdumped⟩
    · cases hindex.symm.trans hselector
    · obtain ⟨-, rfl, -, -⟩ := hopens.unique hother
      rfl
    · obtain ⟨-, rfl, -, -⟩ := hopens.unique hother
      exact hdumped.waits_eq
  rw [hopens.split, waits_append, hrest, List.append_nil, Open.waits_of_channel hopened]

/-- Every run of a dump waits so. -/
theorem dumpWaits_of_runs (hruns : (lower (runDump budget options) .absent).Runs made (socket, outcome)) :
    DumpWaits options made where
  as_asked millis hmem := by
    -- Every wait of the run is the one of its open.
    have hwaits : ∀ {opening rest : Trace Kernel} {live : RawSocket} {result : Except HciError UInt16},
        Opens options made opening rest live result → millis = options.openConfig.drainTimeout.pollMillis := by
      intro opening rest live result hopens
      rw [waits_of_opens hruns hopens] at hmem
      split at hmem
      · exact List.mem_singleton.mp hmem
      · cases hmem
    rcases dump_cases hruns with ⟨error, -, rfl⟩ | ⟨error, hopens⟩ | ⟨_, _, _, _, hopens, -⟩
    · cases hmem
    · rw [hwaits hopens, toInt_openConfig]
    · rw [hwaits hopens, toInt_openConfig]
  once opening rest live result hopens := by
    rw [waits_of_opens hruns hopens]
    split <;> rfl

/-- **No wait is without end, longer than asked for, or cut short by more than it must be**, whatever duration is
asked for; and a dump waits as long as its command line says. -/
theorem waitsAsAsked (timeout : Duration) (budget : Nat) (options : DumpOptions) :
    Waits timeout ∧ ∀ (made : Trace Kernel) (socket : RawSocket) (outcome : Outcome),
      (lower (runDump budget options) .absent).Runs made (socket, outcome) → DumpWaits options made :=
  ⟨waits_of_duration timeout, fun _ _ _ => dumpWaits_of_runs⟩

/-- A dump that is to wait as long as a command line can say. -/
def patient : DumpOptions := ⟨0, none, false, 18446744073709551615⟩

/-- The last duration that the kernel can be told to the millisecond, and a wait that is beyond all of them. -/
theorem waitsAsAsked_patient :
    (⟨2147483, 647999999⟩ : Duration).pollMillis = 2147483647 ∧ Waits ⟨2147483, 647999999⟩ ∧
      waits ((lower (runDump 0 patient) .absent).follow Errands.reluctant).1 = [2147483647] ∧
      DumpWaits patient ((lower (runDump 0 patient) .absent).follow Errands.reluctant).1 := by
  obtain ⟨hwaits, hdump⟩ := waitsAsAsked ⟨2147483, 647999999⟩ 0 patient
  have hruns := Program.runs_follow Errands.reluctant (lower (runDump 0 patient) .absent)
  exact ⟨by decide, hwaits, by decide, hdump _ _ _ hruns⟩

end CommandLine

end HciTransport
