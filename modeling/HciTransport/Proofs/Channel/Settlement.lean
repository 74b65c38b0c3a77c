import HciTransport.Proofs.Channel.Account
import HciTransport.Proofs.Channel.Release

/-!
# What an operation that is over has done about the release

The accounts of the operations that are over come down to three cases (`Account.settled`). A read that has
given the descriptor back has reported its failure, if it was one, and returns what it has read. A close
that has given it back returns what came of that and reports nothing. Any other operation has nothing to
say of it. One release is answered in a run at most, so the reports of a whole run are those of one
operation (`reports_eq_own`).
-/

namespace HciTransport

/-- The entry says that a descriptor could not be given back. -/
def LogEntry.isReport : LogEntry → Bool
  | .closeFailed _ _ => true
  | _ => false

namespace Channel

variable {devId : UInt16} {i j : Nat} {system : System} {history : List Occurrence}
  {occurrence : Occurrence} {point asked : Point} {releaser : Releaser}

/-! ## The reports of one operation -/

/-- What is logged when it happens. -/
def Occurrence.log : Occurrence → List LogEntry
  | .started _ _ | .began _ _ | .abandoned _ _ => []
  | .stepped _ log | .answered _ _ _ log => log

/-- The report that was logged, if it was one. -/
def Deed.report? : Deed → Option LogEntry
  | .logged entry => if entry.isReport then some entry else none
  | .began _ | .answered _ _ => none

/-- The release that was answered, with its answer. -/
def Deed.release? : Deed → Option (Releaser × Except IoError Unit)
  | .answered (.release releaser) outcome => some (releaser, outcome)
  | .answered _ _ | .began _ | .logged _ => none

/-- The read that was answered, by what it has brought. -/
def Deed.receipt? : Deed → Option (Receipt IoError)
  | .answered (.read _) receipt => some receipt
  | .answered _ _ | .began _ | .logged _ => none

/-- What an operation has reported. -/
def ownReports (done : List Deed) : List LogEntry := done.filterMap Deed.report?

/-- The releases of an operation that were answered. -/
def releases (done : List Deed) : List (Releaser × Except IoError Unit) := done.filterMap Deed.release?

/-- What an operation has read. -/
def receipts (done : List Deed) : List (Receipt IoError) := done.filterMap Deed.receipt?

@[simp] theorem ownReports_append (done more : List Deed) :
    ownReports (done ++ more) = ownReports done ++ ownReports more := List.filterMap_append

@[simp] theorem releases_append (done more : List Deed) :
    releases (done ++ more) = releases done ++ releases more := List.filterMap_append

@[simp] theorem receipts_append (done more : List Deed) :
    receipts (done ++ more) = receipts done ++ receipts more := List.filterMap_append

/-- Of what was logged the reports are those entries that say so. -/
@[simp] theorem ownReports_logged (log : List LogEntry) :
    ownReports (log.map .logged) = log.filter LogEntry.isReport := by
  induction log with
  | nil => rfl
  | cons entry log ih =>
    rw [List.filter_cons, ← ih]
    cases h : entry.isReport <;> simp [ownReports, Deed.report?, h]

/-- Logging gives nothing back. -/
@[simp] theorem releases_logged (log : List LogEntry) : releases (log.map .logged) = [] := by
  rw [releases, List.filterMap_map]
  exact List.filterMap_eq_nil_iff.mpr fun _ _ => rfl

@[simp] theorem receipts_logged (log : List LogEntry) : receipts (log.map .logged) = [] := by
  rw [receipts, List.filterMap_map]
  exact List.filterMap_eq_nil_iff.mpr fun _ _ => rfl

/-- The reports of an occurrence are those in its log. -/
theorem ownReports_deeds (occurrence : Occurrence) :
    ownReports occurrence.deeds = occurrence.log.filter LogEntry.isReport := by
  cases occurrence with
  | stepped operation log => exact ownReports_logged log
  | answered operation pending answer log => exact ownReports_logged log
  | _ => rfl

/-- A read at the descriptor gives nothing back and reports nothing, whatever it got. -/
theorem releases_readDeeds (devId : UInt16) (length : Nat) (got : Option (Receipt IoError)) :
    releases (readDeeds devId length got) = [] ∧ ownReports (readDeeds devId length got) = [] := by
  cases got <;> exact ⟨rfl, rfl⟩

/-- An attempt to give the descriptor back is a release if it was made; it is reported only later, by whoever is told.
-/
theorem releases_releaseDeeds (devId : UInt16) (releaser : Releaser)
    (outcome : Option (Except IoError Unit)) :
    releases (releaseDeeds devId releaser outcome) = outcome.toList.map (releaser, ·) ∧
      ownReports (releaseDeeds devId releaser outcome) = [] := by
  cases outcome <;> exact ⟨rfl, rfl⟩

/-- The close frame gives nothing back, sent or not. -/
theorem releases_frameDealt (devId : UInt16) (closer : Closer) (answer : Except IoError Nat) :
    releases ((Pending.closeFrame closer).dealt devId answer) = [] ∧
      ownReports ((Pending.closeFrame closer).dealt devId answer) = [] := by
  cases answer <;> exact ⟨rfl, rfl⟩

theorem releases_writeDealt (devId : UInt16) (frame : Bytes) (answer : Except IoError Nat) :
    releases ((Pending.write frame).dealt devId answer) = [] ∧
      ownReports ((Pending.write frame).dealt devId answer) = [] := by
  cases answer <;> exact ⟨rfl, rfl⟩

/-- What a read logs about itself is no report. -/
theorem reports_readResult (got : Option (Receipt IoError)) :
    (readResult devId got).2.filter LogEntry.isReport = [] := by
  rcases got with _ | ⟨stored, outcome⟩
  · rfl
  · cases outcome <;> rfl

theorem reports_releaseWarning (outcome : Option (Except IoError Unit)) :
    (releaseWarning devId outcome).filter LogEntry.isReport = releaseWarning devId outcome := by
  rcases outcome with _ | outcome
  · rfl
  · cases outcome <;> rfl

/-- What an operation that is over has to do with the release, and what it says of it. -/
inductive Settled (devId : UInt16) (done : List Deed) : Ending → Prop where
  | other {ending : Ending} (hnone : releases done = []) (hquiet : ownReports done = [])
      (hok : ∀ outcome, ending = .returned (.close outcome) → outcome = .ok ()) :
      Settled devId done ending
  | read (got : Option (Receipt IoError)) (outcome : Except IoError Unit)
      (hrelease : releases done = [(.reader got, outcome)])
      (hbegan : .began (.release (.reader got)) ∈ done)
      (hreport : ownReports done = releaseWarning devId (some outcome))
      (hread : receipts done = got.toList) :
      Settled devId done (.returned (.read (readResult devId got).1))
  | close (outcome : Except IoError Unit)
      (hrelease : releases done = [(.closer .caller, outcome)])
      (hbegan : .began (.release (.closer .caller)) ∈ done)
      (hframe : .began (.closeFrame .caller) ∈ done)
      (hquiet : ownReports done = []) :
      Settled devId done (.returned (.close (outcome.mapError .close)))

/-- A read that has given the descriptor back returns what it has read, whatever came of the release. -/
theorem Settled.of_reader (length : Nat) (got : Option (Receipt IoError))
    (outcome : Except IoError Unit) :
    Settled devId
      (readDeeds devId length got ++ (releaseDeeds devId (.reader got) (some outcome) ++
        (afterRelease devId (.reader got) (some outcome)).2.map .logged))
      (.returned (.read (readResult devId got).1)) := by
  obtain ⟨hread, hquiet⟩ := releases_readDeeds devId length got
  obtain ⟨hrelease, hsilent⟩ := releases_releaseDeeds devId (.reader got) (some outcome)
  -- Its deeds are the read, the release and the log of both; each kind of deed is looked for in all three.
  refine .read got outcome ?_ ?_ ?_ ?_
  · rw [releases_append, releases_append, releases_logged, hread, hrelease]
    rfl
  · simp [releaseDeeds, Pending.dealt]
  · rw [ownReports_append, ownReports_append, ownReports_logged, hquiet, hsilent, afterRelease,
      List.filter_append, reports_releaseWarning, reports_readResult]
    simp
  · rw [receipts_append, receipts_append, receipts_logged]
    cases got <;> rfl

/-- A close that has given the descriptor back returns what came of it, and reports nothing. -/
theorem Settled.of_closer (answer : Except IoError Nat) (outcome : Except IoError Unit) :
    Settled devId
      ((Pending.closeFrame .caller).dealt devId answer ++
        .logged (.closing devId) :: (releaseDeeds devId (.closer .caller) (some outcome) ++
          (afterRelease devId (.closer .caller) (some outcome)).2.map .logged))
      (.returned (.close (outcome.mapError .close))) := by
  obtain ⟨hframe, hquiet⟩ := releases_frameDealt devId .caller answer
  refine .close outcome ?_ ?_ ?_ ?_
  · rw [releases_append, hframe]
    rfl
  · simp [releaseDeeds, Pending.dealt]
  · simp [Pending.dealt]
  · rw [ownReports_append, hquiet]
    rfl

/-- **What the table of accounts says of the release.** -/
theorem Account.settled {decided : Option Phase} {done : List Deed} {ending : Ending}
    (haccount : Account devId asked decided done point) (hover : point = .ended ending) :
    Settled devId done ending := by
  -- The rows where the operation is over: it was unwound, it returned at once, or its last attempt to give the
  -- descriptor back has come to an end.
  cases haccount with
  | readUnwound | writeUnwound | closeUnwound =>
    cases hover
    exact .other rfl rfl (by rintro _ ⟨⟩)
  | @readOver length got =>
    cases hover
    obtain ⟨hread, hquiet⟩ := releases_readDeeds devId length got
    refine .other ?_ ?_ (by rintro _ ⟨⟩)
    · rw [releases_append, hread, releases_logged]
      rfl
    · rw [ownReports_append, hquiet, ownReports_logged, reports_readResult]
      rfl
  | @readReleasing length got tail point htail =>
    obtain ⟨hread, hquiet⟩ := releases_readDeeds devId length got
    cases htail with
    | unwound =>
      -- The release was begun, and it was not answered.
      cases hover
      refine .other ?_ ?_ (by rintro _ ⟨⟩)
      · rw [releases_append, hread]
        rfl
      · rw [ownReports_append, hquiet]
        rfl
    | finished outcome hresult =>
      cases hresult
      cases hover
      cases outcome with
      | some outcome => exact .of_reader length got outcome
      | none =>
        -- There was nothing to give back, or another operation was about to.
        refine .other ?_ ?_ (by rintro _ ⟨⟩)
        · rw [releases_append, hread, releases_append, releases_logged]
          rfl
        · rw [ownReports_append, hquiet, ownReports_append, ownReports_logged, afterRelease,
            List.filter_append, reports_releaseWarning, reports_readResult]
          rfl
    | _ => cases hover
  -- A write has nothing to do with the release.
  | writeRefused =>
    cases hover
    exact .other rfl rfl (by rintro _ ⟨⟩)
  | writeOver answer =>
    cases hover
    obtain ⟨hnone, hquiet⟩ := releases_writeDealt devId _ answer
    exact .other hnone hquiet (by rintro _ ⟨⟩)
  -- A second close finds nothing left to do, and returns that all is well.
  | closeAgain =>
    cases hover
    refine .other rfl rfl fun outcome hreturned => ?_
    cases hreturned
    rfl
  | closeReleasing answer htail =>
    obtain ⟨hframe, hquiet⟩ := releases_frameDealt devId .caller answer
    cases htail with
    -- The close was torn away by its own request, as above.
    | unwound =>
      cases hover
      refine .other ?_ ?_ (by rintro _ ⟨⟩)
      · rw [releases_append, hframe]
        rfl
      · rw [ownReports_append, hquiet]
        rfl
    | finished outcome hresult =>
      cases outcome with
      | some outcome =>
        cases hresult
        cases hover
        exact .of_closer answer outcome
      | none =>
        cases hresult
        cases hover
        refine .other ?_ ?_ fun outcome hreturned => ?_
        · rw [releases_append, hframe]
          rfl
        · rw [ownReports_append, hquiet]
          rfl
        · cases hreturned
          rfl
    | _ => cases hover
  | _ => cases hover

/-! ## In a run that is over -/

/-- In a run at rest every operation is settled, and one that was never started has nothing to settle. -/
theorem Run.settled (hrun : Run devId history system) (hrest : system.AtRest) (i : Nat) :
    ∃ ending, Settled devId (deeds history i) ending ∧
      ∀ point, system.points[i]? = some point → point = .ended ending := by
  cases hhere : system.points[i]? with
  | some point =>
    obtain ⟨ending, rfl⟩ := hrest.eq_ended (List.mem_of_getElem? hhere)
    obtain ⟨asked, decided, -, -, haccount⟩ := hrun.account hhere
    refine ⟨ending, haccount.settled rfl, fun point h => ?_⟩
    exact (Option.some.inj h).symm
  | none =>
    -- There is no such operation, and nothing has happened to it.
    have hnothing : own history i = [] := by
      rw [own, List.filter_eq_nil_iff]
      intro occurrence hmem hnumber
      have hlt := hrun.number_lt hmem
      rw [of_decide_eq_true hnumber] at hlt
      exact absurd hlt (Nat.not_lt.mpr (List.getElem?_eq_none_iff.mp hhere))
    refine ⟨.unwound, ?_, fun point h => by cases h⟩
    rw [deeds, hnothing]
    exact .other rfl rfl (by rintro _ ⟨⟩)

/-- One release begins in a run at most. -/
theorem Run.release_unique (hrun : Run devId history system) {other : Releaser}
    (hi : .began i (.release releaser) ∈ history) (hj : .began j (.release other) ∈ history) :
    i = j ∧ releaser = other := by
  have hledger := hrun.release_ledger
  have hone := Bool.toNat_le system.gate.released
  -- The book has one entry at most, so two releases are one occurrence.
  have hsame := eq_of_countP_le_one (P := Occurrence.isRelease) (by omega) hi hj rfl rfl
  cases hsame
  exact ⟨rfl, rfl⟩

/-- The release that was answered in a call was that of a read, which has reported what came of it, or
that of the close that has closed the channel, which returns it. -/
theorem Run.released_by (hrun : Run devId history system) (hrest : system.AtRest)
    {outcome : Except IoError Unit} {log : List LogEntry}
    (hanswered : .answered i (.release releaser) outcome log ∈ history) :
    .began i (.release releaser) ∈ history ∧
      ((∃ got, releaser = .reader got ∧
          ownReports (deeds history i) = releaseWarning devId (some outcome) ∧
          receipts (deeds history i) = got.toList ∧
          system.points[i]? = some (.ended (.returned (.read (readResult devId got).1)))) ∨
        (releaser = .closer .caller ∧ .began i (.closeFrame .caller) ∈ history ∧
          ownReports (deeds history i) = [] ∧
          system.points[i]? = some (.ended (.returned (.close (outcome.mapError .close)))))) := by
  have hrelease : (releaser, outcome) ∈ releases (deeds history i) := by
    refine List.mem_filterMap.mpr ⟨.answered (.release releaser) outcome, ?_, rfl⟩
    exact mem_deeds_of_mem hanswered List.mem_cons_self
  obtain ⟨point, hhere, -⟩ := hrun.exists_course hanswered
  obtain ⟨ending, hsettled, hending⟩ := hrun.settled hrest i
  have hover : system.points[i]? = some (.ended ending) := by
    rw [← hending point hhere]
    exact hhere
  -- Whoever has a release to show is one of the last two rows of the table.
  cases hsettled with
  | other hnone =>
    rw [hnone] at hrelease
    cases hrelease
  | read got outcome' hreleases hbegan hreport hread =>
    rw [hreleases] at hrelease
    cases List.mem_singleton.mp hrelease
    exact ⟨began_of_mem_deeds hbegan, .inl ⟨got, rfl, hreport, hread, hover⟩⟩
  | close outcome' hreleases hbegan hframe hquiet =>
    rw [hreleases] at hrelease
    cases List.mem_singleton.mp hrelease
    exact ⟨began_of_mem_deeds hbegan, .inr ⟨rfl, began_of_mem_deeds hframe, hquiet, hover⟩⟩

/-- A release among the deeds of an operation was answered in the run. -/
theorem answered_of_mem_releases {outcome : Except IoError Unit}
    (hmem : (releaser, outcome) ∈ releases (deeds history i)) :
    ∃ log, .answered i (.release releaser) outcome log ∈ history := by
  -- A deed that is an answer comes from an occurrence that is one.
  obtain ⟨deed, hdeed, hanswer⟩ := List.mem_filterMap.mp hmem
  obtain ⟨occurrence, hown, hdone⟩ := List.mem_flatMap.mp hdeed
  obtain ⟨hoccurrence, hnumber⟩ := mem_own.mp hown
  rw [Deed.release?.eq_def] at hanswer
  split at hanswer
  · cases hanswer
    cases occurrence with
    | answered operation pending answer log =>
      obtain rfl : operation = i := hnumber
      rcases List.mem_cons.mp hdone with heq | hlog
      · cases heq
        exact ⟨log, hoccurrence⟩
      · simp at hlog
    | stepped operation log => simp [Occurrence.deeds] at hdone
    | began => cases List.mem_singleton.mp hdone
    | started | abandoned => cases hdone
  · cases hanswer
  · cases hanswer
  · cases hanswer

/-- Only a read whose release has failed reports anything. -/
theorem Run.ownReports_cases (hrun : Run devId history system) (hrest : system.AtRest) (i : Nat) :
    ownReports (deeds history i) = [] ∨ ∃ got cause log,
      .answered i (.release (.reader got)) (.error cause : Except IoError Unit) log ∈ history := by
  obtain ⟨ending, hsettled, -⟩ := hrun.settled hrest i
  cases hsettled with
  | other _ hquiet => exact .inl hquiet
  | close _ _ _ _ hquiet => exact .inl hquiet
  | read got outcome hrelease _ hreport =>
    -- A release that has gone well leaves no warning.
    cases outcome with
    | ok => exact .inl hreport
    | error cause =>
      have hmem : (.reader got, .error cause) ∈ releases (deeds history i) := by
        rw [hrelease]
        exact List.mem_singleton_self _
      obtain ⟨log, hanswered⟩ := answered_of_mem_releases hmem
      exact .inr ⟨got, cause, log, hanswered⟩

/-- Where one operation only can have reported something, its reports are all that there are. -/
theorem reports_eq_own (hothers : ∀ j, j ≠ i → ownReports (deeds history j) = []) :
    (history.flatMap Occurrence.log).filter LogEntry.isReport = ownReports (deeds history i) := by
  have hown : ∀ j, ownReports (deeds history j) = (own history j).flatMap fun o => ownReports o.deeds :=
    fun j => List.filterMap_flatMap ..
  have hquiet : ∀ occurrence ∈ history, occurrence.number ≠ i → ownReports occurrence.deeds = [] := by
    intro occurrence hmem hother
    have hnone := hothers occurrence.number hother
    rw [hown, List.flatMap_eq_nil_iff] at hnone
    exact hnone occurrence (mem_own.mpr ⟨hmem, rfl⟩)
  rw [List.filter_flatMap, hown]
  simp only [← ownReports_deeds]
  clear hothers hown
  -- What others have done counts for nothing on either side.
  induction history with
  | nil => rfl
  | cons occurrence history ih =>
    have hrest := ih fun later hmem => hquiet later (List.mem_cons_of_mem _ hmem)
    rw [List.flatMap_cons, hrest]
    by_cases hmine : occurrence.number = i
    · simp [own, hmine]
    · rw [hquiet occurrence List.mem_cons_self hmine]
      simp [own, hmine]

end Channel

end HciTransport
