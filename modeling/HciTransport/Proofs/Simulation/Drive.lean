import HciTransport.Proofs.Channel.Streamed
import HciTransport.Simulation.Session

/-!
# Operations in a scene

A scene drives an operation by its own steps, and whenever a request is answered a policy lets others have a go at
the channel first. `Driven` writes down what the operation itself has done on the way. Each of its steps is a turn,
so what it has done keeps to the table of accounts, whatever the others do (`Driven.account`): an operation that
returns has done what the two-state machine does in the phase that it has found (`machine_of_drive`).

What others do comes with the replies of the script. Where none of them brings anything along (`Script.Quiet`),
policies make no difference (`drive_eq_of_quiet`).
-/

namespace HciTransport.Simulation

open Channel (Account Asked Deed Machine Pending Phase Point Turn advance resume)

variable {policy : Policy} {scene after : Scene} {point final asked : Point} {done more : List Deed}
  {phase : Phase} {result : Channel.Result} {devId : UInt16}

/-! ## What an operation does in a scene -/

/-- An operation is driven from a scene and a point to others, and has done this. -/
inductive Driven (policy : Policy) : Scene → Point → List Deed → Scene → Point → Prop where
  | rest {scene : Scene} {point : Point} : Driven policy scene point [] scene point
  | step {scene after : Scene} {point next final : Point} {gate : Channel.Gate} {log : List LogEntry} {done : List Deed}
      (hmoves : advance scene.channel.devId scene.channel.gate point = .step gate log next)
      (hrest : Driven policy ((scene.setGate gate).say log) next done after final) :
      Driven policy scene point (log.map .logged ++ done) after final
  /-- What the policy does comes between the request and the answer. -/
  | answered {scene played after : Scene} {point final : Point} {pending : Pending} {done : List Deed}
      (answer : pending.call.Answer)
      (hmoves : advance scene.channel.devId scene.channel.gate point = .begin pending)
      (hanswer : (scene.request pending.call).2.answer = some answer)
      (hplayed : played = policy pending (scene.request pending.call).2.during (scene.request pending.call).1)
      (hrest : Driven policy (played.say (resume played.channel.devId pending answer).2)
        (resume played.channel.devId pending answer).1 done after final) :
      Driven policy scene point (pending.dealt played.channel.devId answer ++ done) after final
  /-- The request does not return. -/
  | abandoned {scene after : Scene} {point final : Point} {pending : Pending} {done : List Deed}
      (hmoves : advance scene.channel.devId scene.channel.gate point = .begin pending)
      (hnone : (scene.request pending.call).2.answer = none)
      (hrest : Driven policy
        (policy pending (scene.request pending.call).2.during (scene.request pending.call).1) (.unwinding pending)
        done after final) :
      Driven policy scene point (.began pending :: done) after final

/-- However far an operation is driven, it has done something on the way. -/
theorem driven_driveFor (policy : Policy) (steps : Nat) (scene : Scene) (point : Point) :
    ∃ done, Driven policy scene point done (Scene.driveFor policy steps scene point).1
      (Scene.driveFor policy steps scene point).2 := by
  -- Over the steps that are allowed: each is one of an operation, and the rest goes on from there.
  induction steps generalizing scene point with
  | zero => exact ⟨[], .rest⟩
  | succ steps ih =>
    rw [Scene.driveFor]
    cases hmoves : advance scene.channel.devId scene.channel.gate point with
    | step gate log next =>
      obtain ⟨done, hrest⟩ := ih ((scene.setGate gate).say log) next
      exact ⟨_, .step hmoves hrest⟩
    | begin pending =>
      dsimp only
      -- A request without an answer does not return, and the operation is taken back from it.
      cases hanswer : (scene.request pending.call).2.answer with
      | some answer =>
        obtain ⟨done, hrest⟩ := ih _ _
        exact ⟨_, .answered answer hmoves hanswer rfl hrest⟩
      | none =>
        obtain ⟨done, hrest⟩ := ih _ _
        exact ⟨_, .abandoned hmoves hanswer hrest⟩
    | blocked | waiting | «over» => exact ⟨[], .rest⟩

/-! ## The channel stays the same -/

/-- Whatever the policy does, it is the same controller afterwards. -/
def Policy.Keeps (policy : Policy) : Prop :=
  ∀ pending ops scene, (policy pending ops scene).channel.devId = scene.channel.devId

/-- An operation that is driven ends on the channel of the controller where it began. -/
theorem Driven.devId_eq (hkeeps : Policy.Keeps policy) (hdriven : Driven policy scene point done after final) :
    after.channel.devId = scene.channel.devId := by
  induction hdriven with
  | rest => rfl
  | step hmoves hrest ih => exact ih
  | answered answer hmoves hanswer hplayed hrest ih =>
    rw [ih, hplayed]
    exact hkeeps _ _ _
  | abandoned hmoves hnone hrest ih => exact ih.trans (hkeeps _ _ _)

/-- Wherever an operation ends in a scene, the controller is the same. -/
theorem devId_drive (hkeeps : Policy.Keeps policy) (scene : Scene) (point : Point) :
    (scene.drive policy point).1.channel.devId = scene.channel.devId := by
  obtain ⟨done, hdriven⟩ := driven_driveFor policy point.rank scene point
  exact hdriven.devId_eq hkeeps

theorem keeps_skipAll : Policy.Keeps Scene.skipAll := by
  intro pending ops scene
  rw [Scene.skipAll]
  induction ops generalizing scene with
  | nil => rfl
  | cons op ops ih => exact ih _

theorem devId_aside (scene : Scene) (point : Point) (length : Nat) :
    (scene.aside point length).channel.devId = scene.channel.devId :=
  devId_drive keeps_skipAll scene point

theorem devId_enqueue (scene : Scene) (point : Point) (length : Nat) :
    (scene.enqueue point length).channel.devId = scene.channel.devId :=
  devId_drive keeps_skipAll _ point

/-- A field that cannot be read ends the scene and does nothing on the channel. -/
theorem devId_scripted {α : Type} (field : Scripted α) {use : α → Scene}
    (huse : ∀ value, (use value).channel.devId = scene.channel.devId) :
    (scene.scripted field use).channel.devId = scene.channel.devId := by
  cases field with
  | ok value => exact huse value
  | error name => rfl

/-- Nothing that others do replaces the channel. -/
theorem devId_meanwhile (pending : Pending) (scene : Scene) (op : Meanwhile) :
    (Scene.meanwhile pending scene op).channel.devId = scene.channel.devId := by
  -- Everything that is left out or cannot be done leaves the scene as it is.
  fun_cases Scene.meanwhile pending scene op with
  | case1 | case2 | case5 | case6 | case9 | case10 | case12 | case14 => rfl
  | case3 => exact devId_scripted _ fun value => devId_aside scene _ value
  | case4 => exact devId_scripted _ fun value => devId_aside scene _ 0
  | case7 => exact devId_aside scene .close 0
  | case8 => exact devId_scripted _ fun value => devId_enqueue scene _ value
  | case11 => exact devId_scripted _ fun value => devId_enqueue scene _ 0
  | case13 => exact devId_enqueue scene .close 0

/-- Whatever the others do, the controller stays the same. -/
theorem keeps_doAll : Policy.Keeps Scene.doAll := by
  intro pending ops scene
  rw [Scene.doAll]
  induction ops generalizing scene with
  | nil => rfl
  | cons op ops ih => exact (ih _).trans (devId_meanwhile pending scene op)

/-! ## Whatever the others do -/

/-- Who is decided goes the way that was set for it. -/
theorem Driven.account_decided (hkeeps : Policy.Keeps policy) (hdriven : Driven policy scene point more after final)
    (hdevId : scene.channel.devId = devId) (haccount : Account devId asked (some phase) done point) :
    Account devId asked (some phase) (done ++ more) final := by
  -- What has been done grows in front of the rest, so the induction is for any account that has got so far.
  induction hdriven generalizing done with
  | rest =>
    rw [List.append_nil]
    exact haccount
  | @step scene after point next final gate log more hmoves hrest ih =>
    rw [hdevId] at hmoves
    have hturn : Turn devId 0 scene.channel.gate point (.stepped 0 log) gate next := Channel.turn_of_advance hmoves
    have hmore := ih hdevId (hturn.account_decided haccount)
    rwa [List.append_assoc] at hmore
  | @answered scene played after point final pending more answer hmoves hanswer hplayed hrest ih =>
    obtain rfl := Channel.eq_before_of_advance hmoves
    -- The answer is said of the controller that is there when the others have had their go.
    have hplayer : played.channel.devId = devId := by
      rw [hplayed, ← hdevId]
      exact hkeeps _ _ _
    rw [hplayer] at ih ⊢
    have hbegin : Turn devId 0 scene.channel.gate (.before pending) (.began 0 pending) scene.channel.gate _ := .begin
    have hturn : Turn devId 0 scene.channel.gate (.inside pending) _ scene.channel.gate _ :=
      Channel.turn_of_resume pending answer
    have hmore := ih hplayer (hturn.account_decided (hbegin.account_decided haccount))
    rwa [List.append_assoc, List.append_assoc] at hmore
  | @abandoned scene after point final pending more hmoves hnone hrest ih =>
    obtain rfl := Channel.eq_before_of_advance hmoves
    have hbegin : Turn devId 0 scene.channel.gate (.before pending) (.began 0 pending) scene.channel.gate _ := .begin
    have habandon : Turn devId 0 scene.channel.gate (.inside pending) (.abandoned 0 pending) scene.channel.gate _ :=
      .abandon
    have hmore := ih ((hkeeps _ _ _).trans hdevId) (habandon.account_decided (hbegin.account_decided haccount))
    rwa [List.append_assoc, List.append_assoc] at hmore

/-- **What an operation does in a scene keeps to the table of accounts.** It is decided by the gate that it finds,
before its first request gives others a go. -/
theorem Driven.account (hkeeps : Policy.Keeps policy) (hdriven : Driven policy scene point more after final)
    (hdevId : scene.channel.devId = devId) (haccount : Account devId asked none done point) :
    Account devId asked none (done ++ more) final ∨
      Account devId asked (some scene.channel.gate.phase) (done ++ more) final := by
  induction hdriven generalizing done with
  | rest =>
    rw [List.append_nil]
    exact .inl haccount
  | @step scene after point next final gate log more hmoves hrest ih =>
    rw [hdevId] at hmoves
    have hturn : Turn devId 0 scene.channel.gate point (.stepped 0 log) gate next := Channel.turn_of_advance hmoves
    rw [← List.append_assoc]
    -- The first step past the gate decides the operation, and it sees the gate as the scene has it.
    rcases hturn.account_undecided haccount with ⟨hstill, hphase⟩ | ⟨hmade, -⟩
    · rw [← hphase]
      exact ih hdevId hstill
    · exact .inr (hrest.account_decided hkeeps hdevId hmade)
  | answered answer hmoves | abandoned hmoves =>
    -- Who stands before a request is decided.
    obtain rfl := Channel.eq_before_of_advance hmoves
    cases haccount.isUndecided_eq

/-- **An operation that returns has done what the machine does**, in the phase of the channel that it has found. -/
theorem machine_of_drive (hkeeps : Policy.Keeps policy) (hasked : Asked asked)
    (hover : (scene.drive policy asked).2 = .ended (.returned result)) :
    ∃ done, Driven policy scene asked done (scene.drive policy asked).1 (.ended (.returned result)) ∧
      Machine scene.channel.gate.phase asked done result (scene.channel.gate.phase.after asked) := by
  obtain ⟨done, hdriven⟩ := driven_driveFor policy asked.rank scene asked
  rw [← Scene.drive, hover] at hdriven
  refine ⟨done, hdriven, ?_⟩
  -- Who has returned is not undecided.
  rcases hdriven.account hkeeps rfl (.of_asked hasked) with hundecided | haccount
  · cases hundecided.isUndecided_eq
  · exact haccount.machine

/-! ## Where nothing comes with the replies -/

/-- No reply of the script brings anything along. -/
def Script.Quiet (script : Script) : Prop := ∀ queue, ∀ reply ∈ script.get queue, reply.during = []

theorem Script.get_set (script : Script) (replies : List Reply) (queue other : Queue) :
    (script.set replies queue).get other = if other = queue then replies else script.get other := by
  cases queue <;> cases other <;> rfl

/-- The reply that is taken brings nothing along, and no later one does. -/
theorem Script.Quiet.take {script : Script} (hquiet : script.Quiet) (queue : Queue) :
    (script.take queue).1.during = [] ∧ (script.take queue).2.Quiet := by
  rw [Script.take]
  cases hreplies : script.get queue with
  | nil => exact ⟨rfl, hquiet⟩
  | cons reply rest =>
    refine ⟨hquiet queue reply (by rw [hreplies]; exact List.mem_cons_self), fun other more hmem => ?_⟩
    -- Only the queue of the reply has changed, and it has lost one.
    rw [Script.get_set] at hmem
    split at hmem
    · exact hquiet queue more (by rw [hreplies]; exact List.mem_cons_of_mem _ hmem)
    · exact hquiet other more hmem

/-- A reply without anything along brings nothing to any queue. -/
theorem meanwhile_eq_nil {reply : Reply} (hreply : reply.during = []) (queue : Queue) : reply.meanwhile queue = [] := by
  cases queue <;> first | rfl | exact hreply

theorem World.kernelCall_quiet {world : World} (hquiet : world.script.Quiet) (call : KernelCall) :
    (world.kernelCall call).2.1 = [] ∧ (world.kernelCall call).1.script.Quiet := by
  obtain ⟨hreply, hrest⟩ := hquiet.take (callQueue call)
  refine ⟨meanwhile_eq_nil hreply _, ?_⟩
  cases call <;> exact hrest

/-- The calls of a whole program bring nothing along. -/
theorem World.runKernel_quiet {α : Type} (program : Program Kernel α) {world : World} (hquiet : world.script.Quiet)
    (during : List Meanwhile) :
    (World.runKernel program world during).2.1 = during ∧ (World.runKernel program world during).1.script.Quiet := by
  -- Along the program, with whatever has come so far.
  induction program generalizing world during with
  | done value => exact ⟨rfl, hquiet⟩
  | emit event rest ih =>
    have hsaid : (world.say event).script.Quiet := by cases event <;> exact hquiet
    exact ih hsaid during
  | call request next ih =>
    obtain ⟨hnothing, hrest⟩ := World.kernelCall_quiet hquiet request
    rw [World.runKernel]
    dsimp only
    rw [hnothing, List.append_nil]
    exact ih _ hrest during

/-- A request is answered, and nothing comes with the answer, at either level. -/
theorem World.request_quiet {world : World} (hquiet : world.script.Quiet) (socket : RawSocket) (call : DescriptorCall) :
    (world.request socket call).2.2.during = [] ∧ (world.request socket call).1.script.Quiet := by
  rw [World.request]
  split
  · exact World.runKernel_quiet (socket.answer call) hquiet []
  · split
    · exact ⟨rfl, hquiet⟩
    · obtain ⟨hreply, hrest⟩ := hquiet.take (requestQueue call)
      exact ⟨meanwhile_eq_nil hreply _, hrest⟩

/-- The policy does nothing unasked. -/
def Policy.Idle (policy : Policy) : Prop := ∀ pending scene, policy pending [] scene = scene

/-- Step by step the two policies leave the scene alone. -/
theorem driveFor_eq_of_quiet {other : Policy} (hidle : Policy.Idle policy) (hother : Policy.Idle other) (steps : Nat)
    (scene : Scene) (hquiet : scene.world.script.Quiet) (point : Point) :
    Scene.driveFor policy steps scene point = Scene.driveFor other steps scene point := by
  -- The script is quiet after every reply, so the next step finds it so again.
  induction steps generalizing scene point with
  | zero => rfl
  | succ steps ih =>
    rw [Scene.driveFor, Scene.driveFor]
    cases advance scene.channel.devId scene.channel.gate point with
    | step gate log next => exact ih ((scene.setGate gate).say log) hquiet next
    | begin pending =>
      obtain ⟨hnothing, hrest⟩ := World.request_quiet hquiet scene.channel.socket pending.call
      have hduring : (scene.request pending.call).2.during = [] := hnothing
      dsimp only
      rw [hduring, hidle, hother]
      cases (scene.request pending.call).2.answer with
      | some answer => exact ih _ hrest _
      | none => exact ih _ hrest _
    | blocked | waiting | «over» => rfl

/-- **Policies make no difference where nothing comes with the replies.** -/
theorem drive_eq_of_quiet {other : Policy} (hidle : Policy.Idle policy) (hother : Policy.Idle other)
    (hquiet : scene.world.script.Quiet) (point : Point) : scene.drive policy point = scene.drive other point :=
  driveFor_eq_of_quiet hidle hother point.rank scene hquiet point

end HciTransport.Simulation
