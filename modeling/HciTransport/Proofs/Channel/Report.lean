import HciTransport.Proofs.Channel.Drop
import HciTransport.Proofs.Channel.Schedule
import HciTransport.Proofs.Channel.Settlement

/-!
# Who is told that a descriptor could not be given back

A release is made once, on behalf of a close, of a read or of the drop, and it may fail. A close that has
made it returns the failure to its caller and logs nothing. Nobody else has a caller who asked for the
release, so a read and the drop log the failure, and what the read has read it returns all the same.
`Run.reported` says so of the whole life of a channel.
-/

namespace HciTransport.Channel

variable {devId : UInt16} {i : Nat} {system : System} {history : List Occurrence} {trace : Trace Descriptor}
  {releaser : Releaser}

/-- The reports in the life of a channel, those of its drop included. -/
def reports (history : List Occurrence) (trace : Trace Descriptor) : List LogEntry :=
  (history.flatMap Occurrence.log ++ trace.log).filter LogEntry.isReport

/-- Reports are made in calls or in the drop. -/
theorem reports_eq (history : List Occurrence) (trace : Trace Descriptor) :
    reports history trace =
      (history.flatMap Occurrence.log).filter LogEntry.isReport ++ trace.log.filter LogEntry.isReport :=
  List.filter_append ..

/-! ## In the drop -/

/-- The answer to a release. -/
def releaseAnswer? : Sign Descriptor → Option (Except IoError Unit)
  | .asked .release outcome => some outcome
  | .asked _ _ | .said _ => none

/-- How the releases of a trace were answered. -/
def outcomes (trace : Trace Descriptor) : List (Except IoError Unit) := trace.filterMap releaseAnswer?

@[simp] theorem outcomes_release (outcome : DescriptorCall.release.Answer) (trace : Trace Descriptor) :
    outcomes (DescriptorCall.release.asked outcome :: trace) = outcome :: outcomes trace := rfl

@[simp] theorem outcomes_write {bytes : Bytes} (answer : (DescriptorCall.write bytes).Answer)
    (trace : Trace Descriptor) :
    outcomes ((DescriptorCall.write bytes).asked answer :: trace) = outcomes trace := rfl

@[simp] theorem outcomes_append (before after : Trace Descriptor) :
    outcomes (before ++ after) = outcomes before ++ outcomes after := List.filterMap_append

@[simp] theorem outcomes_ofLog (log : List LogEntry) : outcomes (Trace.ofLog log) = [] := by
  induction log with
  | nil => rfl
  | cons entry log ih => exact ih

/-- These are the answers to the releases in the trace. -/
theorem mem_outcomes {outcome : Except IoError Unit} :
    outcome ∈ outcomes trace ↔ DescriptorCall.release.asked outcome ∈ trace := by
  constructor
  · intro hmem
    obtain ⟨sign, hsign, hanswer⟩ := List.mem_filterMap.mp hmem
    rw [releaseAnswer?.eq_def] at hanswer
    split at hanswer
    · cases hanswer
      exact hsign
    · cases hanswer
    · cases hanswer
  · exact fun hmem => List.mem_filterMap.mpr ⟨_, hmem, rfl⟩

/-- What is logged about the close frame is no report. -/
theorem reports_frameWarning (answer : Except IoError Nat) :
    (frameWarning devId answer ++ [LogEntry.closing devId]).filter LogEntry.isReport = [] := by
  cases answer <;> rfl

/-- A drop makes the release that is missing, and reports what came of it. -/
theorem Run.drop_cases (hrun : Run devId history system) (hrest : system.AtRest)
    (hdrop : (drop devId system.gate).Runs trace ()) :
    (system.gate.released = true ∧ outcomes trace = [] ∧ trace.log.filter LogEntry.isReport = []) ∨
      (system.gate.released = false ∧ ∃ outcome, outcomes trace = [outcome] ∧
        trace.log.filter LogEntry.isReport = releaseWarning devId (some outcome)) := by
  obtain ⟨shown, ending, hshown, rfl⟩ := runs_drop_iff.mp hdrop
  -- To forget the descriptor says nothing of the release.
  have hlast : outcomes (shown ++ [DescriptorCall.discard.asked ()]) = outcomes shown := by
    rw [outcomes_append]
    exact List.append_nil _
  have hlog : Trace.log (shown ++ [DescriptorCall.discard.asked ()]) = Trace.log shown := by
    rw [Trace.log_append]
    exact List.append_nil _
  rw [hlast, hlog]
  -- The three gates that a drop can find.
  rcases hrun.gate_at_rest hrest with hgate | hgate | hgate
  · rw [hgate] at hshown ⊢
    obtain ⟨-, answer, outcome, rfl⟩ := shown_of_drop_opened hshown
    refine .inr ⟨rfl, outcome, ?_, ?_⟩
    · rw [outcomes_write, outcomes_append, outcomes_ofLog, outcomes_release, outcomes_ofLog]
      rfl
    · rw [Trace.log_asked, Trace.log_append, Trace.log_ofLog, Trace.log_asked, Trace.log_ofLog,
        List.filter_append, reports_releaseWarning]
      exact congrArg (· ++ _) (reports_frameWarning answer)
  · rw [hgate] at hshown ⊢
    obtain ⟨-, rfl⟩ := shown_of_drop_shut hshown
    exact .inl ⟨rfl, rfl, rfl⟩
  · rw [hgate] at hshown ⊢
    obtain ⟨-, outcome, rfl⟩ := shown_of_drop_kept hshown
    refine .inr ⟨rfl, outcome, ?_, ?_⟩
    · rw [outcomes_release, outcomes_ofLog]
      rfl
    · rw [Trace.log_asked, Trace.log_ofLog, reports_releaseWarning]

/-! ## The main result -/

/-- How the failure of a release is told in the life of a channel, its drop included. -/
structure Reported (devId : UInt16) (history : List Occurrence) (system : System)
    (trace : Trace Descriptor) : Prop where
  /-- If a release fails in a call, that is the close that has closed the channel, and it returns the
  failure, or a read, and there is one report. -/
  in_call : ∀ i releaser cause log,
    .answered i (.release releaser) (.error cause : Except IoError Unit) log ∈ history →
    (releaser = .closer .caller ∧ .began i (.closeFrame .caller) ∈ history ∧
        system.points[i]? = some (.ended (.returned (.close (.error (.close cause))))) ∧
        reports history trace = []) ∨
      ((∃ got, releaser = .reader got) ∧ reports history trace = [.closeFailed devId (.close cause)])
  /-- If it fails in the drop, there is one report. -/
  in_drop : ∀ cause, DescriptorCall.release.asked (.error cause) ∈ trace →
    reports history trace = [.closeFailed devId (.close cause)] ∧
      ∀ i releaser outcome log, .answered i (.release releaser) outcome log ∉ history
  /-- There is no report of anything else. -/
  quiet : (∀ i releaser cause log,
      .answered i (.release releaser) (.error cause : Except IoError Unit) log ∉ history) →
    (∀ cause, DescriptorCall.release.asked (.error cause) ∉ trace) → reports history trace = []
  /-- Every other close returns that all went well: what a close returns is never the failure of a release
  that it has not made itself. -/
  other_closes : ∀ i outcome, system.points[i]? = some (.ended (.returned (.close outcome))) →
    outcome = .ok () ∨ ∃ cause log, outcome = .error (.close cause) ∧
      .answered i (.release (.closer .caller)) (.error cause : Except IoError Unit) log ∈ history
  /-- Only one release is answered, so a failure is told once. -/
  one_release : ∀ i j releaser other outcome outcome' log log',
    .answered i (.release releaser) outcome log ∈ history →
    .answered j (.release other) outcome' log' ∈ history → i = j ∧ releaser = other
  /-- A read that has made the release returns what it has read, whatever came of the release. -/
  read_kept : ∀ i got outcome log, .answered i (.release (.reader got)) outcome log ∈ history →
    receipts (deeds history i) = got.toList ∧
      system.points[i]? = some (.ended (.returned (.read (readResult devId got).1)))
  /-- What a report says. -/
  words : ∀ cause, (LogEntry.closeFailed devId (.close cause)).text =
    "WARN " ++ (hciName devId ++ ": " ++ ("can't close hci socket: " ++ cause.text))

/-- An operation that ends as a close that failed has made the release itself. -/
theorem Run.close_failed (hrun : Run devId history system) (hrest : system.AtRest)
    {outcome : Except HciError Unit}
    (hover : system.points[i]? = some (.ended (.returned (.close outcome)))) :
    outcome = .ok () ∨ ∃ cause log, outcome = .error (.close cause) ∧
      .answered i (.release (.closer .caller)) (.error cause : Except IoError Unit) log ∈ history := by
  obtain ⟨ending, hsettled, hending⟩ := hrun.settled hrest i
  cases hending _ hover
  generalize hreturned : Ending.returned (.close outcome) = ending at hsettled
  -- A close that has not made the release returns that all is well.
  cases hsettled with
  | other _ _ hok => exact .inl (hok outcome hreturned.symm)
  | read => cases hreturned
  | close answer hrelease =>
    cases hreturned
    cases answer with
    | ok => exact .inl rfl
    | error cause =>
      have hmem : (.closer .caller, .error cause) ∈ releases (deeds history i) := by
        rw [hrelease]
        exact List.mem_singleton_self _
      obtain ⟨log, hanswered⟩ := answered_of_mem_releases hmem
      exact .inr ⟨cause, log, rfl, hanswered⟩

/-- If the release was made in a call, that call has made all the reports that there are. -/
theorem Run.reports_of_call (hrun : Run devId history system) (hrest : system.AtRest)
    (hdrop : (drop devId system.gate).Runs trace ()) (hbegan : .began i (.release releaser) ∈ history) :
    reports history trace = ownReports (deeds history i) := by
  have hothers : ∀ j, j ≠ i → ownReports (deeds history j) = [] := by
    intro j hother
    rcases hrun.ownReports_cases hrest j with hquiet | ⟨got, cause, log, hanswered⟩
    · exact hquiet
    · exact absurd (hrun.release_unique (hrun.released_by hrest hanswered).1 hbegan).1 hother
  -- What was given back in a call the drop does not give back again.
  have hreleased := hrun.released_of_release ⟨_, hbegan, rfl⟩
  rcases hrun.drop_cases hrest hdrop with ⟨-, -, hnone⟩ | ⟨hkept, -⟩
  · rw [reports_eq, reports_eq_own hothers, hnone, List.append_nil]
  · rw [hreleased] at hkept
    cases hkept

/-- If no release has failed in a call, the drop has made all the reports that there are. -/
theorem Run.reports_of_drop (hrun : Run devId history system) (hrest : system.AtRest)
    (hnone : ∀ i releaser cause log,
      .answered i (.release releaser) (.error cause : Except IoError Unit) log ∉ history) :
    reports history trace = trace.log.filter LogEntry.isReport := by
  have hquiet : ∀ j, ownReports (deeds history j) = [] := by
    intro j
    rcases hrun.ownReports_cases hrest j with hquiet | ⟨got, cause, log, hanswered⟩
    · exact hquiet
    · exact absurd hanswered (hnone _ _ _ _)
  rw [reports_eq, reports_eq_own fun j (_ : j ≠ 0) => hquiet j, hquiet 0]
  rfl

/-- **The failure of a release is told once, and to the right party.** -/
theorem Run.reported (hrun : Run devId history system) (hrest : system.AtRest)
    (hdrop : (drop devId system.gate).Runs trace ()) : Reported devId history system trace where
  in_call i releaser cause log hanswered := by
    obtain ⟨hbegan, hwho⟩ := hrun.released_by hrest hanswered
    rw [hrun.reports_of_call hrest hdrop hbegan]
    -- A read reports the failure, and a close returns it.
    rcases hwho with ⟨got, hreader, hreport, -, -⟩ | ⟨hcloser, hframe, hquiet, hover⟩
    · exact .inr ⟨⟨got, hreader⟩, hreport⟩
    · exact .inl ⟨hcloser, hframe, hover, hquiet⟩
  in_drop cause hasked := by
    have hmem := mem_outcomes.mpr hasked
    rcases hrun.drop_cases hrest hdrop with ⟨-, hnone, -⟩ | ⟨hkept, outcome, hone, hreport⟩
    · rw [hnone] at hmem
      cases hmem
    · rw [hone] at hmem
      obtain rfl := List.mem_singleton.mp hmem
      -- The drop has found the descriptor, so nobody gave it back before.
      have hnever : ∀ i releaser outcome log, .answered i (.release releaser) outcome log ∉ history := by
        intro i releaser outcome log hanswered
        rw [hrun.released_of_release ⟨_, (hrun.released_by hrest hanswered).1, rfl⟩] at hkept
        cases hkept
      rw [hrun.reports_of_drop hrest fun i releaser cause log => hnever i releaser _ log]
      exact ⟨hreport, hnever⟩
  quiet hcalls hasks := by
    rw [hrun.reports_of_drop hrest hcalls]
    -- Only the drop is left to have reported something, and its release has not failed.
    rcases hrun.drop_cases hrest hdrop with ⟨-, -, hnone⟩ | ⟨-, outcome, hone, hreport⟩
    · exact hnone
    · rw [hreport]
      cases outcome with
      | ok => rfl
      | error cause =>
        refine absurd (mem_outcomes.mp ?_) (hasks cause)
        rw [hone]
        exact List.mem_singleton_self _
  other_closes i outcome hover := hrun.close_failed hrest hover
  one_release i j releaser other outcome outcome' log log' hi hj :=
    hrun.release_unique (hrun.released_by hrest hi).1 (hrun.released_by hrest hj).1
  read_kept i got outcome log hanswered := by
    obtain ⟨-, ⟨kept, hreader, -, hread, hover⟩ | ⟨hcloser, -⟩⟩ := hrun.released_by hrest hanswered
    · cases hreader
      exact ⟨hread, hover⟩
    · cases hcloser
  words cause := rfl

/-- The answer of a descriptor that fails in whatever it is asked to do. -/
def Pending.failed (cause : IoError) : (pending : Pending) → pending.call.Answer
  | .read _ => (⟨[], .error cause⟩ : Receipt IoError)
  | .write _ | .closeFrame _ => (.error cause : Except IoError Nat)
  | .release _ => (.error cause : Except IoError Unit)

/-- A close leaves the release to a read, and it fails there. -/
def lateFailure : List Choice :=
  [.read 4, .go 0, .go 0, .go 0, .go 0,
   .close, .go 1, .go 1, .go 1, .answer 1 Pending.granted, .go 1, .go 1,
   .answer 0 Pending.granted, .go 0, .go 0, .go 0, .go 0, .go 0,
   .answer 0 (Pending.failed (.system 5)), .go 0]

/-- The read has reported the failure, and the drop finds nothing left to give back. -/
theorem reported_lateFailure :
    Run 0 (play 0 lateFailure).1 (play 0 lateFailure).2 ∧ (play 0 lateFailure).2.AtRest ∧
      (drop 0 (play 0 lateFailure).2.gate).Runs [DescriptorCall.discard.asked ()] () ∧
      reports (play 0 lateFailure).1 [DescriptorCall.discard.asked ()] =
        [.closeFailed 0 (.close (.system 5))] ∧
      Reported 0 (play 0 lateFailure).1 (play 0 lateFailure).2 [DescriptorCall.discard.asked ()] := by
  have hrun : Run 0 (play 0 lateFailure).1 (play 0 lateFailure).2 := run_play 0 lateFailure
  have hrest : (play 0 lateFailure).2.AtRest := by
    unfold System.AtRest
    decide
  have hdrop : (drop 0 (play 0 lateFailure).2.gate).Runs [DescriptorCall.discard.asked ()] () := by
    have hgate : (play 0 lateFailure).2.gate = .shut := rfl
    rw [hgate, runs_drop_iff, run_drop_shut]
    exact ⟨[], dropped, .done _, rfl⟩
  exact ⟨hrun, hrest, hdrop, rfl, hrun.reported hrest hdrop⟩

end HciTransport.Channel
