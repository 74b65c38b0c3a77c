import HciTransport.Proofs.Channel.Turn

/-!
# Schedules: runs that can be played

A run leaves open who goes next and how requests are answered. A schedule decides it: it is a list of
choices, and `play` follows them from the opened channel on, passing over a choice that cannot be
followed. What schedules play is what runs are (`run_iff_play`), so a run with given occurrences is
exhibited by its choices and checked by evaluation.
-/

namespace HciTransport.Channel

/-- What happens next: a caller asks for something, or an operation has its turn. -/
inductive Choice where
  | read (length : Nat)
  | write (frame : Bytes)
  | close
  /-- The operation takes its own next step, or begins the request that it stands before. -/
  | go (operation : Nat)
  /-- The request in progress is answered; the answer may depend on what was asked. -/
  | answer (operation : Nat) (reply : (pending : Pending) → pending.call.Answer)
  | abandon (operation : Nat)

/-- The answer of a descriptor that does what it is asked to do, and has nothing to read. -/
def Pending.granted : (pending : Pending) → pending.call.Answer
  | .read _ => (⟨[], .ok 0⟩ : Receipt IoError)
  | .write frame => (.ok frame.length : Except IoError Nat)
  | .closeFrame _ => (.ok HciTransport.closeFrame.length : Except IoError Nat)
  | .release _ => (.ok () : Except IoError Unit)

/-- A caller asks for something. -/
def System.start (system : System) (point : Point) : Occurrence × System :=
  (.started system.points.length point, ⟨system.gate, system.points ++ [point]⟩)

/-- Follows one choice, if that is possible. -/
def follow (devId : UInt16) (system : System) : Choice → Option (Occurrence × System)
  | .read length => some (system.start (.read length))
  | .write frame => some (system.start (.write frame))
  | .close => some (system.start .close)
  | .go operation =>
    match system.points[operation]? with
    | none => none
    | some point =>
      match advance devId system.gate point with
      | .step gate log next =>
        some (.stepped operation log, ⟨gate, system.points.set operation next⟩)
      | .begin pending =>
        some (.began operation pending, ⟨system.gate, system.points.set operation (.inside pending)⟩)
      | .blocked | .waiting _ | .over _ => none
  | .answer operation reply =>
    match system.points[operation]? with
    | some (.inside pending) =>
      some (.answered operation pending (reply pending) (resume devId pending (reply pending)).2,
        ⟨system.gate, system.points.set operation (resume devId pending (reply pending)).1⟩)
    | _ => none
  | .abandon operation =>
    match system.points[operation]? with
    | some (.inside pending) =>
      some (.abandoned operation pending, ⟨system.gate, system.points.set operation (.unwinding pending)⟩)
    | _ => none

/-- One more choice on top of a history; one that cannot be followed changes nothing. -/
def extend (devId : UInt16) (so : List Occurrence × System) (choice : Choice) :
    List Occurrence × System :=
  match follow devId so.2 choice with
  | some (occurrence, next) => (so.1 ++ [occurrence], next)
  | none => so

/-- Follows all choices from the opened channel on. -/
def play (devId : UInt16) (choices : List Choice) : List Occurrence × System :=
  choices.foldl (extend devId) ([], .opened)

variable {devId : UInt16} {system next : System} {history : List Occurrence} {occurrence : Occurrence}

/-- A choice that can be followed is a step. -/
theorem step_of_follow {choice : Choice} (h : follow devId system choice = some (occurrence, next)) :
    Step devId system occurrence next := by
  cases choice with
  | read length => cases h; exact .start (.read length)
  | write frame => cases h; exact .start (.write frame)
  | close => cases h; exact .start .close
  -- It can be followed only where `advance` has a step or a request for that operation.
  | go operation =>
    simp only [follow] at h
    split at h
    · cases h
    · next point hhere =>
      split at h
      · next hmoves => cases h; exact .go hhere hmoves
      · next hmoves => cases h; exact .begin hhere hmoves
      · cases h
      · cases h
      · cases h
  | answer operation reply =>
    simp only [follow] at h
    split at h
    · next hhere => cases h; exact .answer _ hhere
    · cases h
  | abandon operation =>
    simp only [follow] at h
    split at h
    · next hhere => cases h; exact .abandon hhere
    · cases h

/-- Every step can be chosen. -/
theorem exists_follow (h : Step devId system occurrence next) :
    ∃ choice, follow devId system choice = some (occurrence, next) := by
  classical
  cases h with
  | start asked =>
    cases asked with
    | read length => exact ⟨.read length, rfl⟩
    | write frame => exact ⟨.write frame, rfl⟩
    | close => exact ⟨.close, rfl⟩
  | @go operation _ _ _ _ here moves => exact ⟨.go operation, by simp [follow, here, moves]⟩
  | @begin operation _ _ here moves => exact ⟨.go operation, by simp [follow, here, moves]⟩
  | @answer operation pending answer here =>
    -- The reply gives this answer to this request, and grants any other one.
    refine ⟨.answer operation fun asked =>
      if heq : asked = pending then heq ▸ answer else asked.granted, ?_⟩
    simp [follow, here]
  | @abandon operation _ here => exact ⟨.abandon operation, by simp [follow, here]⟩

/-- The last choice comes on top of what the ones before it have played. -/
theorem play_append (choices : List Choice) (choice : Choice) :
    play devId (choices ++ [choice]) = extend devId (play devId choices) choice := by
  rw [play, List.foldl_append]
  rfl

/-- Whatever is chosen, a run is played. -/
theorem run_play (devId : UInt16) (choices : List Choice) :
    Run devId (play devId choices).1 (play devId choices).2 := by
  -- The choices are followed from the front, so what has been played so far is kept general.
  suffices ∀ so : List Occurrence × System, Run devId so.1 so.2 →
      Run devId (choices.foldl (extend devId) so).1 (choices.foldl (extend devId) so).2 from
    this ([], .opened) .opened
  induction choices with
  | nil => exact fun _ hrun => hrun
  | cons choice choices ih =>
    intro so hrun
    refine ih (extend devId so choice) ?_
    unfold extend
    split
    · next hfollow => exact .step hrun (step_of_follow hfollow)
    · exact hrun

/-- **Schedules play the runs, and nothing else.** -/
theorem run_iff_play : Run devId history system ↔ ∃ choices, play devId choices = (history, system) := by
  constructor
  -- A run grows at its end, and so does the schedule.
  · intro hrun
    induction hrun with
    | opened => exact ⟨[], rfl⟩
    | step hbefore hstep ih =>
      obtain ⟨choices, hplay⟩ := ih
      obtain ⟨choice, hfollow⟩ := exists_follow hstep
      refine ⟨choices ++ [choice], ?_⟩
      rw [play_append, hplay, extend]
      simp only [hfollow]
  · rintro ⟨choices, hplay⟩
    have hrun := run_play devId choices
    rwa [hplay] at hrun

/-- A close comes upon a read that waits for input: it sends its frame and leaves the descriptor to the
read, which gives it back once it is answered. -/
def lateRead : List Choice :=
  [.read 4, .go 0, .go 0, .go 0, .go 0,
   .close, .go 1, .go 1, .go 1, .answer 1 Pending.granted, .go 1, .go 1,
   .answer 0 Pending.granted, .go 0, .go 0, .go 0, .go 0, .go 0, .answer 0 Pending.granted, .go 0]

/-- A frame is being written when the channel is closed, and another one comes too late. -/
def lateWrite : List Choice :=
  [.write [0x01, 0x03, 0x0c, 0x00], .go 0, .go 0, .go 0,
   .close, .go 1, .write [0x02], .answer 0 Pending.granted, .go 0,
   .go 1, .go 1, .answer 1 Pending.granted, .go 1, .go 1, .go 1, .go 1, .answer 1 Pending.granted, .go 1,
   .go 2, .go 2, .go 2]

end HciTransport.Channel
