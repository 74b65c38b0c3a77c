import HciTransport.Proofs.Channel.Solo
import HciTransport.Proofs.Said

/-!
# Calls one at a time

A channel has two flags and two locks, and its operations have a way to leave the release to each other. Where
no call overlaps another nothing of that shows: the channel is a machine with two states (`serve`), and a call
does at the descriptor what the machine does, and returns what it returns. What the machine makes of a call
and what the program of the call makes of it are one, but for what is logged (`silent_run`).

A run is sequential if a call is only started when all earlier ones have ended (`Sequential`). By induction it
stands at the end of some calls that the machine has served, or inside one more (`Stands`), whose program has
still to be run (`Underway`). In the other direction the machine is followed call by call
(`Sequential.finish`), so every sequence of calls comes to its end with every sequence of replies
(`refinesMachine`).
-/

namespace HciTransport

namespace Channel

/-! ## The two-state machine -/

/-- What a caller asks a channel for. -/
inductive Call where
  | read (length : Nat)
  | write (frame : Bytes)
  | close

/-- Where the operation of a call begins. -/
def Call.point : Call → Point
  | .read length => .read length
  | .write frame => .write frame
  | .close => .close

/-- How the gate stands in each state while nothing is in progress: a closed channel has given its descriptor
back. -/
def Phase.gate : Phase → Gate
  | .opened => .opened
  | .closed => .shut

/-- What the machine does with a call: the state after it and the result. -/
def serve : Phase → Call → Program Descriptor (Phase × Result)
  | .opened, .read length => .call (.read length) fun receipt =>
    .done (.opened, .read ⟨receipt.stored, receipt.outcome.mapError .receive⟩)
  | .opened, .write frame => .call (.write frame) fun answer =>
    .done (.opened, .write (answer.mapError .send))
  | .opened, .close => .call (.write closeFrame) fun _ => .call .release fun outcome =>
    .done (.closed, .close (outcome.mapError .close))
  | .closed, .read _ => .done (.closed, .read ⟨[], .ok 0⟩)
  | .closed, .write _ => .done (.closed, .write (.error .closed))
  | .closed, .close => .done (.closed, .close (.ok ()))

/-- Calls in turn, with the result of each. -/
def serveAll : Phase → List Call → Program Descriptor (Phase × List Result)
  | phase, [] => .done (phase, [])
  | phase, call :: calls => (serve phase call).bind fun (between, result) =>
    (serveAll between calls).bind fun (final, results) => .done (final, result :: results)

variable {devId : UInt16} {history later : List Occurrence} {system next : System} {occurrence : Occurrence}
  {trace before after shown : Trace Descriptor} {phase between final : Phase} {call : Call} {calls : List Call}
  {gate : Gate} {point : Point} {result : Result} {results : List Result} {ending : Gate × Point}

/-- The machine serves the first call, and then the others in the state where that has left it. -/
theorem runs_serveAll_cons_iff :
    (serveAll phase (call :: calls)).Runs trace (final, results) ↔
      ∃ (before after : Trace Descriptor) (between : Phase) (result : Result) (others : List Result),
        trace = before ++ after ∧ results = result :: others ∧ (serve phase call).Runs before (between, result) ∧
          (serveAll between calls).Runs after (final, others) := by
  constructor
  · intro hruns
    obtain ⟨before, rest, ⟨between, result⟩, rfl, hcall, hrest⟩ := Program.runs_bind_iff.mp hruns
    obtain ⟨after, _, ⟨final, others⟩, rfl, hcalls, hdone⟩ := Program.runs_bind_iff.mp hrest
    obtain ⟨rfl, hended⟩ := Program.runs_done_iff.mp hdone
    cases hended
    exact ⟨before, after, between, result, others, by rw [List.append_nil], rfl, hcall, hcalls⟩
  · rintro ⟨before, after, between, result, others, rfl, rfl, hcall, hcalls⟩
    refine Program.runs_bind_iff.mpr ⟨before, after, (between, result), rfl, hcall, ?_⟩
    exact Program.runs_bind_iff.mpr ⟨after, [], (final, others), (List.append_nil _).symm, hcalls, .done _⟩

/-- One call more. -/
theorem runs_serveAll_append (hcalls : (serveAll phase calls).Runs before (between, results))
    (hcall : (serve between call).Runs after (final, result)) :
    (serveAll phase (calls ++ [call])).Runs (before ++ after) (final, results ++ [result]) := by
  -- On the calls that come first, since the machine takes them from the front.
  induction calls generalizing phase before results with
  | nil =>
    obtain ⟨rfl, hended⟩ := Program.runs_done_iff.mp hcalls
    cases hended
    exact runs_serveAll_cons_iff.mpr ⟨after, [], final, result, [], (List.append_nil _).symm, rfl, hcall, .done _⟩
  | cons first calls ih =>
    obtain ⟨head, tail, middle, got, others, rfl, rfl, hfirst, hothers⟩ := runs_serveAll_cons_iff.mp hcalls
    refine runs_serveAll_cons_iff.mpr
      ⟨head, tail ++ after, middle, got, others ++ [result], ?_, rfl, hfirst, ih hothers⟩
    rw [List.append_assoc]

/-! ### The program of a call -/

/-- An operation that has returned. -/
def returned (result : Result) : Point := .ended (.returned result)

/-- **What the program of a call asks for and returns is what the machine does with the call.** -/
theorem silent_run (devId : UInt16) (phase : Phase) (call : Call) :
    (run devId phase.gate call.point).silent =
      (serve phase call).bind fun (after, result) => .done (after.gate, returned result) := by
  -- What is logged depends on the answer, but not what is asked or returned.
  cases phase with
  | opened =>
    cases call with
    | read length =>
      show (run devId .opened (.read length)).silent = _
      rw [run_read_opened]
      refine Program.call_congr fun receipt => ?_
      rw [Program.silent_logAll]
      rcases receipt with ⟨stored, cause | count⟩ <;> rfl
    | write frame =>
      show (run devId .opened (.write frame)).silent = _
      rw [run_write_opened]
      refine Program.call_congr fun answer => ?_
      rw [Program.silent_logAll]
      rfl
    | close =>
      show (run devId .opened .close).silent = _
      rw [run_close_opened]
      refine Program.call_congr fun answer => ?_
      rw [Program.silent_logAll]
      rfl
  | closed => cases call <;> rfl

/-- Nobody says that it leaves the release to another. -/
def NotDeferral : Event → Prop
  | .log entry => isDeferral entry = false
  | .line _ => True

/-- A log without a deferral says nothing of that kind. -/
theorem notDeferral_of_any {entries : List LogEntry} (hnone : entries.any isDeferral = false) :
    ∀ entry ∈ entries, NotDeferral (.log entry) := by
  intro entry hmem
  show isDeferral entry = false
  simpa using List.any_eq_false.mp hnone entry hmem

/-- No program of a call defers anything: it meets nobody to whom it could. -/
theorem says_run (devId : UInt16) (phase : Phase) (call : Call) :
    (run devId phase.gate call.point).Says NotDeferral := by
  cases phase with
  | opened =>
    cases call with
    | read length =>
      show (run devId .opened (.read length)).Says NotDeferral
      rw [run_read_opened]
      exact .call fun receipt => .logAll (notDeferral_of_any (deferral_readResult (some receipt))) (.done _)
    | write frame =>
      show (run devId .opened (.write frame)).Says NotDeferral
      rw [run_write_opened]
      refine .call fun answer => .logAll (notDeferral_of_any ?_) (.done _)
      cases answer <;> rfl
    | close =>
      show (run devId .opened .close).Says NotDeferral
      rw [run_close_opened]
      refine .call fun answer => .logAll (notDeferral_of_any ?_) (.call fun outcome => .done _)
      cases answer <;> rfl
  | closed =>
    cases call with
    | read | write => exact .done _
    | close => exact .emit rfl (.done _)

/-- A run of the program of a call is the machine serving that call. -/
theorem served_of_run (hruns : (run devId phase.gate call.point).Runs trace ending) :
    ∃ after result, ending = (after.gate, returned result) ∧ (serve phase call).Runs trace.asks (after, result) := by
  have hsilent := Program.runs_silent_iff.mpr ⟨trace, rfl, hruns⟩
  rw [silent_run] at hsilent
  obtain ⟨asked, _, ⟨after, result⟩, htrace, hserved, hdone⟩ := Program.runs_bind_iff.mp hsilent
  obtain ⟨rfl, rfl⟩ := Program.runs_done_iff.mp hdone
  rw [List.append_nil] at htrace
  exact ⟨after, result, rfl, htrace ▸ hserved⟩

/-- What the machine serves, the program of the call can run. -/
theorem run_of_served (devId : UInt16) (hserved : (serve phase call).Runs trace (final, result)) :
    ∃ shown, trace = Trace.asks shown ∧ (run devId phase.gate call.point).Runs shown (final.gate, returned result) := by
  refine Program.runs_silent_iff.mp ?_
  rw [silent_run]
  exact Program.runs_bind_iff.mpr ⟨trace, [], (final, result), (List.append_nil _).symm, hserved, .done _⟩

/-! ## Sequential runs -/

/-- A call is made. -/
def Occurrence.isStart : Occurrence → Bool
  | .started _ _ => true
  | _ => false

/-- A run in which no call overlaps another and no request is abandoned. -/
inductive Sequential (devId : UInt16) : List Occurrence → System → Prop where
  | opened : Sequential devId [] .opened
  | step {history : List Occurrence} {system next : System} {occurrence : Occurrence}
      (hbefore : Sequential devId history system) (hstep : Step devId system occurrence next)
      (hanswered : occurrence.isAbandonment = false) (hapart : occurrence.isStart = true → system.AtRest) :
      Sequential devId (history ++ [occurrence]) next

/-- A sequential run is a run. -/
theorem Sequential.run (hseq : Sequential devId history system) : Run devId history system := by
  induction hseq with
  | opened => exact .opened
  | step hbefore hstep hanswered hapart ih => exact .step ih hstep

/-- What is not the start of a call may happen at any time. -/
theorem Sequential.go_on (hseq : Sequential devId history system) (hstep : Step devId system occurrence next)
    (hanswered : occurrence.isAbandonment = false) (hnot : occurrence.isStart = false) :
    Sequential devId (history ++ [occurrence]) next := by
  refine .step hseq hstep hanswered fun hstart => ?_
  rw [hnot] at hstart
  cases hstart

/-! ### What callers and the descriptor see of a run -/

/-- The call that is made. -/
def Occurrence.call? : Occurrence → Option Call
  | .started _ (.readStart length) => some (.read length)
  | .started _ (.writeLock frame) => some (.write frame)
  | .started _ (.closeMark _) => some .close
  | _ => none

/-- The calls that were made, in order. -/
def called (history : List Occurrence) : List Call := history.filterMap Occurrence.call?

/-- The request that comes to the descriptor. -/
def Occurrence.begun? : Occurrence → Option DescriptorCall
  | .began _ pending => some pending.call
  | _ => none

/-- The requests that came to the descriptor, in order. -/
def begun (history : List Occurrence) : List DescriptorCall := history.filterMap Occurrence.begun?

/-- What a run was, once all of its calls have returned. -/
structure Observed (history : List Occurrence) (system : System) (calls : List Call) (trace : Trace Descriptor)
    (results : List Result) : Prop where
  called : called history = calls
  /-- Every request that came to the descriptor was answered, and these are the requests and the answers. -/
  begun : begun history = trace.calls
  exchanged : (seen history).asks = trace
  returned : system.points = results.map returned
  /-- Nobody has left the release to another. -/
  not_deferred : ∀ entry ∈ (seen history).log, isDeferral entry = false

theorem called_append (history later : List Occurrence) : called (history ++ later) = called history ++ called later :=
  List.filterMap_append

theorem begun_append (history later : List Occurrence) : begun (history ++ later) = begun history ++ begun later :=
  List.filterMap_append

/-- Who starts at the point of a call was called so. -/
theorem called_started (number : Nat) (call : Call) : called [.started number call.point] = [call] := by
  cases call <;> rfl

/-- Whatever is asked for is a call. -/
theorem exists_call_of_asked (hasked : Asked point) : ∃ call : Call, point = call.point := by
  cases hasked with
  | read length => exact ⟨.read length, rfl⟩
  | write frame => exact ⟨.write frame, rfl⟩
  | close => exact ⟨.close, rfl⟩

/-- Every call can be asked for. -/
theorem asked_point (call : Call) : Asked call.point := by
  cases call with
  | read length => exact .read length
  | write frame => exact .write frame
  | close => exact .close

/-- Whoever goes on with a call makes no other. -/
theorem Progress.no_call {operation : Nat} {gate' : Gate} {point' : Point}
    (hprogress : Progress devId operation gate point occurrence gate' point') :
    occurrence.isStart = false ∧ called [occurrence] = [] := by
  cases hprogress <;> exact ⟨rfl, rfl⟩

/-! ### A call under way -/

/-- The request that an operation waits for. -/
def Point.awaited : Point → List DescriptorCall
  | .inside pending => [pending.call]
  | _ => []

/-- Outside a request nothing is awaited. -/
theorem Point.awaited_eq (houtside : point.isInside = false) : point.awaited = [] := by
  cases point with
  | inside => cases houtside
  | _ => rfl

/-- A step begins the request that is awaited after it, or answers the one that was awaited before it. -/
theorem Progress.awaited_balance {operation : Nat} {gate' : Gate} {point' : Point}
    (hprogress : Progress devId operation gate point occurrence gate' point') :
    point.awaited ++ begun [occurrence] = (seen [occurrence]).calls ++ point'.awaited := by
  cases hprogress with
  | go moves =>
    obtain ⟨hpoint, hnext⟩ := outside_of_advance moves
    rw [Point.awaited_eq hpoint, Point.awaited_eq hnext, seen_stepped, Trace.calls_ofLog]
    rfl
  | begin pending => rfl
  | answer answer =>
    rw [Point.awaited_eq (outside_of_resume answer), seen_answered, Trace.calls_asked, Trace.calls_ofLog]
    rfl

/-- What happened since the call was made, which is not over yet or just so. -/
structure Underway (devId : UInt16) (phase : Phase) (call : Call) (later : List Occurrence) (gate : Gate)
    (point : Point) : Prop where
  no_call : called later = []
  begun : begun later = (seen later).calls ++ point.awaited
  /-- What was seen is the first part of a run of the program of the call. -/
  back : ∀ rest ending, (run devId gate point.recalled).Runs rest ending →
    (run devId phase.gate call.point).Runs (seen later ++ rest) ending

/-- A call that was just made has all of its program before it. -/
theorem Underway.start (devId : UInt16) (phase : Phase) (call : Call) :
    Underway devId phase call [] phase.gate call.point := by
  refine ⟨rfl, ?_, ?_⟩
  · cases call <;> rfl
  · intro rest ending hrest
    have houtside : call.point.isInside = false := by cases call <;> rfl
    rwa [Point.recalled_eq houtside] at hrest

/-- The operation over which a sequential run stands. -/
inductive Stands (devId : UInt16) : List Occurrence → System → Prop where
  /-- All calls have returned. -/
  | rests {history : List Occurrence} {calls : List Call} {trace : Trace Descriptor} {results : List Result}
      {phase : Phase} (hserved : (serveAll .opened calls).Runs trace (phase, results))
      (hobserved : Observed history ⟨phase.gate, results.map returned⟩ calls trace results) :
      Stands devId history ⟨phase.gate, results.map returned⟩
  /-- All but the last have. -/
  | busy {before later : List Occurrence} {calls : List Call} {trace : Trace Descriptor} {results : List Result}
      {phase : Phase} {call : Call} {gate : Gate} {point : Point}
      (hserved : (serveAll .opened calls).Runs trace (phase, results))
      (hobserved : Observed before ⟨phase.gate, results.map returned⟩ calls trace results)
      (hunderway : Underway devId phase call later gate point) :
      Stands devId (before ++ .started results.length call.point :: later)
        ⟨gate, results.map returned ++ [point]⟩

/-- What a sequential run comes to between its calls. -/
def Settles (history : List Occurrence) (system : System) : Prop :=
  ∃ calls trace results phase, (serveAll .opened calls).Runs trace (phase, results) ∧
    Observed history system calls trace results ∧ system.gate = phase.gate

/-- At rest the last call has been served, too. -/
theorem Stands.settles (hstands : Stands devId history system) (hrest : system.AtRest) : Settles history system := by
  cases hstands with
  | rests hserved hobserved => exact ⟨_, _, _, _, hserved, hobserved, rfl⟩
  | @busy before later calls trace results phase call gate point hserved hobserved hunderway =>
    obtain ⟨ending, rfl⟩ := hrest.eq_ended (List.mem_append_right _ (List.mem_singleton_self point))
    have hlast : (run devId gate (.ended ending)).Runs [] (gate, .ended ending) := .done _
    have hrun := hunderway.back [] _ hlast
    rw [List.append_nil] at hrun
    -- Its program is run to the end, so the machine has served this call, too.
    obtain ⟨after, result, hended, hcall⟩ := served_of_run hrun
    obtain ⟨rfl, hpoint⟩ := Prod.mk.inj hended
    have hseen : seen (before ++ .started results.length call.point :: later) = seen before ++ seen later :=
      seen_append before _
    refine ⟨calls ++ [call], trace ++ (seen later).asks, results ++ [result], after,
      runs_serveAll_append hserved hcall, ?_, rfl⟩
    -- What was observed up to the call, and what was since, are put together part by part.
    refine ⟨?_, ?_, ?_, ?_, ?_⟩
    · rw [called_append, hobserved.called, ← List.singleton_append, called_append, called_started, hunderway.no_call]
      rfl
    · have hlater : begun (.started results.length call.point :: later) = begun later := rfl
      rw [begun_append, hlater, hobserved.begun, hunderway.begun, Trace.calls_append, Trace.calls_asks]
      exact congrArg _ (List.append_nil _)
    · rw [hseen, Trace.asks_append, hobserved.exchanged]
    · rw [List.map_append, hpoint]
      rfl
    · intro entry hmem
      rw [hseen, Trace.log_append] at hmem
      rcases List.mem_append.mp hmem with hmem | hmem
      · exact hobserved.not_deferred entry hmem
      · exact says_run devId phase call _ _ hrun _ (Trace.mem_log.mp hmem)

/-- Who has returned has no turn. -/
theorem Turn.not_returned {operation : Nat} {gate' : Gate} {point' : Point}
    (hturn : Turn devId operation gate point occurrence gate' point') (result : Result) : point ≠ returned result := by
  rintro rfl
  cases hturn

/-- Among operations that have returned every one has. -/
theorem eq_returned_of_getElem? {i : Nat} (hi : (results.map returned)[i]? = some point) :
    ∃ result, point = returned result := by
  obtain ⟨result, -, rfl⟩ := List.mem_map.mp (List.mem_of_getElem? hi)
  exact ⟨result, rfl⟩

/-- A step of a sequential run starts a call where none is under way, or goes on with the one that is. -/
theorem Stands.step (hstands : Stands devId history system) (hstep : Step devId system occurrence next)
    (hanswered : occurrence.isAbandonment = false) (hapart : occurrence.isStart = true → system.AtRest) :
    Stands devId (history ++ [occurrence]) next := by
  -- A start needs rest, and at rest all calls are served.
  rcases step_iff.mp hstep with ⟨start, hasked, rfl, rfl⟩ | ⟨moved, here, gate', point', hhere, hturn, rfl⟩
  · obtain ⟨calls, trace, results, phase, hserved, hobserved, hgate⟩ := hstands.settles (hapart rfl)
    obtain ⟨call, rfl⟩ := exists_call_of_asked hasked
    obtain ⟨gate, points⟩ := system
    obtain rfl : points = results.map returned := hobserved.returned
    obtain rfl : gate = phase.gate := hgate
    have hstarted := Stands.busy hserved hobserved (Underway.start devId phase call)
    rwa [← List.length_map returned] at hstarted
  · cases hstands with
    -- Between calls nobody has a turn.
    | rests hserved hobserved =>
      obtain ⟨result, rfl⟩ := eq_returned_of_getElem? hhere
      exact absurd rfl (hturn.not_returned result)
    | @busy before later calls trace results phase call gate point hserved hobserved hunderway =>
      rcases getElem?_append_cases hhere with ⟨rfl, rfl⟩ | ⟨-, hearlier⟩
      · -- The turn is that of the call under way.
        have hset : (results.map returned ++ [here]).set (results.map returned).length point' =
            results.map returned ++ [point'] := by simp
        have hafter : (results.map returned ++ [point'])[(results.map returned).length]? = some point' := by simp
        rw [hset] at hstep ⊢
        have hprogress := hstep.progress hturn.number_eq hhere hafter hanswered
        rw [List.append_assoc, List.cons_append]
        refine .busy hserved hobserved ⟨?_, ?_, ?_⟩
        · rw [called_append, hunderway.no_call, hprogress.no_call.2]
          rfl
        · rw [begun_append, hunderway.begun, seen_append, Trace.calls_append, List.append_assoc, List.append_assoc,
            hprogress.awaited_balance]
        · intro rest ending hrest
          rw [seen_append, List.append_assoc]
          exact hunderway.back _ _ (hprogress.runs_back hrest)
      · obtain ⟨result, rfl⟩ := eq_returned_of_getElem? hearlier
        exact absurd rfl (hturn.not_returned result)

/-- A sequential run stands between two calls or inside one. -/
theorem Sequential.stands (hseq : Sequential devId history system) : Stands devId history system := by
  induction hseq with
  | opened =>
    have hnothing : (serveAll .opened []).Runs [] (.opened, []) := .done _
    exact .rests hnothing ⟨rfl, rfl, rfl, rfl, List.forall_mem_nil _⟩
  | step hbefore hstep hanswered hapart ih => exact ih.step hstep hanswered hapart

/-! ### Every call comes to its end -/

/-- An operation that nobody interferes with can be followed to the end of its program. -/
theorem Sequential.finish {i : Nat} {ending : Ending} (hseq : Sequential devId history system)
    (hhere : system.points[i]? = some point)
    (hruns : (Channel.run devId system.gate point.recalled).Runs trace (gate, .ended ending)) :
    ∃ later, Sequential devId (history ++ later) ⟨gate, system.points.set i (.ended ending)⟩ ∧ called later = [] ∧
      seen later = trace := by
  -- The rank of its point falls with each of its steps.
  induction hrank : point.rank using Nat.strongRecOn generalizing history system point trace with
  | ind rank ih =>
    subst hrank
    -- Either it has ended, or it has a step to take and a shorter way left.
    rcases exists_progress i hruns with ⟨rfl, rfl, rfl⟩ | ⟨occurrence, between, next, rest, rfl, hprogress, hrest⟩
    · obtain ⟨hlt, hpoint⟩ := List.getElem?_eq_some_iff.mp hhere
      have hsame : system.points.set i (.ended ending) = system.points := by
        rw [← hpoint, List.set_getElem_self]
      rw [hsame]
      exact ⟨[], by rwa [List.append_nil], rfl, rfl⟩
    · obtain ⟨hnot, hnone⟩ := hprogress.no_call
      have hnext := hseq.go_on (hprogress.step hhere) hprogress.answered hnot
      obtain ⟨later, hlater, hcalled, hseen⟩ :=
        ih next.rank hprogress.rank_lt hnext (getElem?_set_of_some hhere) hrest rfl
      rw [List.set_set, List.append_assoc] at hlater
      refine ⟨[occurrence] ++ later, hlater, ?_, ?_⟩
      · rw [called_append, hnone, hcalled]
        rfl
      · rw [seen_append, hseen]

/-- What the machine does with some calls can be seen of the channel from any rest on. -/
theorem Sequential.exists_served (hseq : Sequential devId history system) (hrest : system.AtRest)
    (hgate : system.gate = phase.gate) (hserved : (serveAll phase calls).Runs trace (final, results)) :
    ∃ later next, Sequential devId (history ++ later) next ∧ next.AtRest ∧ called later = calls ∧
      (seen later).asks = trace ∧ next.points = system.points ++ results.map returned := by
  induction calls generalizing history system phase trace results with
  | nil =>
    obtain ⟨rfl, hended⟩ := Program.runs_done_iff.mp hserved
    cases hended
    exact ⟨[], system, by rwa [List.append_nil], hrest, rfl, rfl, (List.append_nil _).symm⟩
  | cons call calls ih =>
    obtain ⟨first, others, between, result, rest, rfl, rfl, hcall, hcalls⟩ := runs_serveAll_cons_iff.mp hserved
    obtain ⟨shown, rfl, hruns⟩ := run_of_served devId hcall
    have hstarted : Sequential devId (history ++ [.started system.points.length call.point])
        ⟨system.gate, system.points ++ [call.point]⟩ := .step hseq (.start (asked_point call)) rfl fun _ => hrest
    have houtside : call.point.isInside = false := by cases call <;> rfl
    rw [← hgate, ← Point.recalled_eq houtside] at hruns
    have hhere : (system.points ++ [call.point])[system.points.length]? = some call.point := by simp
    -- The first call is made and followed to its end; then all is at rest again.
    obtain ⟨own, hfinished, hnone, rfl⟩ := hstarted.finish hhere hruns
    have hset : (system.points ++ [call.point]).set system.points.length (returned result) =
        system.points ++ [returned result] := by simp
    rw [show Point.ended (.returned result) = returned result from rfl, hset] at hfinished
    have hstill : System.AtRest ⟨between.gate, system.points ++ [returned result]⟩ := by
      intro point hmem
      rcases List.mem_append.mp hmem with hmem | hmem
      · exact hrest point hmem
      · cases List.mem_singleton.mp hmem
        rfl
    obtain ⟨later, next, hnext, hover, hcalled, hseen, hpoints⟩ := ih hfinished hstill rfl hcalls
    refine ⟨[.started system.points.length call.point] ++ own ++ later, next, ?_, hover, ?_, ?_, ?_⟩
    · rwa [← List.append_assoc, ← List.append_assoc]
    · rw [called_append, called_append, called_started, hnone, hcalled]
      rfl
    · rw [seen_append, seen_append, Trace.asks_append, hseen]
      rfl
    · rw [hpoints, List.map_cons, List.append_assoc]
      rfl

/-- Whoever is under way in a sequential run can move. -/
theorem Sequential.canMove {i : Nat} (hseq : Sequential devId history system) (hlive : system.Unfinished i) :
    system.CanMove devId i := by
  -- There is one operation that is not over, and it would have to wait for itself.
  have hone : ∀ {j k : Nat}, system.Unfinished j → system.Unfinished k → j = k := by
    intro j k ⟨p, hj, hpover⟩ ⟨q, hk, hqover⟩
    cases hseq.stands with
    | rests =>
      obtain ⟨result, rfl⟩ := eq_returned_of_getElem? hj
      cases hpover
    | busy =>
      rcases getElem?_append_cases hj with ⟨rfl, -⟩ | ⟨-, hj⟩
      · rcases getElem?_append_cases hk with ⟨rfl, -⟩ | ⟨-, hk⟩
        · rfl
        · obtain ⟨result, rfl⟩ := eq_returned_of_getElem? hk
          cases hqover
      · obtain ⟨result, rfl⟩ := eq_returned_of_getElem? hj
        cases hpover
  rcases hlive.canMove_or_waits devId with hmoves | ⟨lock, hwaits⟩
  · exact hmoves
  · obtain ⟨holder, hholds, hholder⟩ := hseq.run.exists_holder hwaits
    obtain rfl := hone hlive hholder.1
    exact absurd hholds hwaits.not_holds

/-! ## The main result -/

/-- A channel that is used by one call at a time is the two-state machine. -/
structure RefinesMachine (devId : UInt16) : Prop where
  /-- Between calls the channel stands where the machine stands that has served the same calls with the same
  replies, and has returned the same results. The descriptor was given back if the channel is closed, and only
  then. -/
  between_calls : ∀ history system, Sequential devId history system → system.AtRest →
    ∃ calls trace results phase, Observed history system calls trace results ∧
      (serveAll .opened calls).Runs trace (phase, results) ∧ system.gate = phase.gate ∧
        system.gate.released = system.gate.closed
  /-- A call that is under way can always go on. -/
  never_stuck : ∀ history system, Sequential devId history system → ∀ i, system.Unfinished i → system.CanMove devId i
  /-- Whatever calls the machine serves, and with whatever replies, the channel serves them so. -/
  serves : ∀ calls trace results phase, (serveAll .opened calls).Runs trace (phase, results) →
    ∃ history system, Sequential devId history system ∧ system.AtRest ∧ Observed history system calls trace results

/-- Results can be told from where their operations stand. -/
theorem returned_injective : Function.Injective returned := by
  intro result other hsame
  cases hsame
  rfl

/-- **Used by one call at a time, a channel is the two-state machine.** -/
theorem refinesMachine (devId : UInt16) : RefinesMachine devId where
  between_calls history system hseq hrest := by
    obtain ⟨calls, trace, results, phase, hserved, hobserved, hgate⟩ := hseq.stands.settles hrest
    refine ⟨calls, trace, results, phase, hobserved, hserved, hgate, ?_⟩
    rw [hgate]
    cases phase <;> rfl
  never_stuck _ _ hseq _ hlive := hseq.canMove hlive
  serves calls trace results phase hserved := by
    have hfresh : System.AtRest .opened := List.forall_mem_nil _
    have hgate : System.opened.gate = Phase.opened.gate := rfl
    obtain ⟨history, system, hseq, hrest, hcalled, hseen, hpoints⟩ :=
      Sequential.opened.exists_served hfresh hgate hserved
    refine ⟨history, system, hseq, hrest, ?_⟩
    -- The run that was found is sequential, so it has been observed; what was observed of it is what it was found
    -- with.
    obtain ⟨_, _, others, _, -, hobserved, -⟩ := hseq.stands.settles hrest
    cases hobserved.called.symm.trans hcalled
    cases hobserved.exchanged.symm.trans hseen
    have hsame : others = results := returned_injective.list_map (hobserved.returned.symm.trans hpoints)
    rwa [hsame] at hobserved

end Channel

end HciTransport
