import HciTransport.Error.Hci
import Mathlib

/-!
# What the message of an error tells

A message opens with fixed words of its step (`Step.opening`) and goes on with what belongs to this one failure
(`detail`). No step's opening begins another's, so equal messages are of one step and go on alike
(`step_eq_of_message`, `detail_eq_of_message`). A number of a controller stands before something that is no digit,
so it ends where it ends whatever follows (`repr_append_inj`). Hence a message tells all that it was made of
(`SaysWhich`), even if the text of the failed call is made to look like another message.
-/

namespace HciTransport

/-! ## Numbers in a text -/

/-- The digits in front of a text are those of the number, if no digit follows it. -/
theorem takeWhile_repr_append (number : Nat) {stop : Char} (hstop : stop.isDigit = false) (rest : List Char) :
    (number.repr.toList ++ stop :: rest).takeWhile Char.isDigit = number.repr.toList := by
  rw [Nat.toList_repr,
    List.takeWhile_append_of_pos fun _ hdigit => Nat.isDigit_of_mem_toDigits (by decide) (by decide) hdigit,
    List.takeWhile_cons_of_neg (by simp [hstop]), List.append_nil]

/-- Two texts of a number and a mark that is no digit are equal only if the numbers are, and what comes after. -/
theorem repr_append_inj {number other : Nat} {stop : Char} {mark rest rest' : List Char} (hstop : stop.isDigit = false)
    (hsame : number.repr.toList ++ (stop :: mark ++ rest) = other.repr.toList ++ (stop :: mark ++ rest')) :
    number = other ∧ rest = rest' := by
  -- The digits end before the first character that is none, in either text.
  have hdigits : number.repr.toList = other.repr.toList := by
    rw [← takeWhile_repr_append number hstop (mark ++ rest), ← takeWhile_repr_append other hstop (mark ++ rest')]
    exact congrArg (List.takeWhile Char.isDigit) hsame
  rw [hdigits] at hsame
  exact ⟨Nat.repr_inj.mp (String.toList_inj.mp hdigits), List.append_cancel_left (List.append_cancel_left hsame)⟩

namespace HciError

/-! ## The words of a step -/

/-- What was attempted when an error arose. -/
inductive Step where
  | socket
  | control (op : ControlOp)
  | deviceList
  | bind
  | receive
  | send
  | close
  | closed
  | invalidDevice
  | noDevices
  deriving DecidableEq

namespace Step

/-- The words in front of what is different from failure to failure. -/
def opening : Step → String
  | socket => "can't create socket: "
  | control op => "can't " ++ op.text ++ " hci"
  | deviceList => "can't get device list: "
  | bind => "can't bind socket to hci"
  | receive => "can't read hci socket: "
  | send => "can't write hci socket: "
  | close => "can't close hci socket: "
  | closed => "hci socket is closed"
  | invalidDevice => "invalid device index: "
  | noDevices => "no devices available: "

/-- All steps, for what can be checked one by one. -/
def all : List Step :=
  [socket, control .up, control .down, control .reset, control .info, deviceList, bind, receive, send, close, closed,
    invalidDevice, noDevices]

theorem mem_all (step : Step) : step ∈ all := by
  cases step
  case control op => cases op <;> decide
  all_goals decide

/-- Many openings begin alike, but none is the beginning of another. -/
theorem eq_of_mem_all :
    ∀ step ∈ all, ∀ other ∈ all, step.opening.toList <+: other.opening.toList → step = other := by
  decide +kernel

/-- A step is known from its opening. -/
theorem eq_of_opening_starts {step other : Step} (hopening : step.opening.toList <+: other.opening.toList) :
    step = other :=
  eq_of_mem_all step step.mem_all other other.mem_all hopening

end Step

variable {error other : HciError}

/-- The step that an error arose in. -/
def step : HciError → Step
  | .socket _ => .socket
  | .control op _ _ => .control op
  | .deviceList _ => .deviceList
  | .bind _ _ => .bind
  | .receive _ => .receive
  | .send _ => .send
  | .close _ => .close
  | .closed => .closed
  | .invalidDevice _ => .invalidDevice
  | .noDevices _ => .noDevices

/-- What a message goes on with after the words of its step. -/
def detail : HciError → String
  | .socket cause | .deviceList cause | .receive cause | .send cause | .close cause => cause.text
  | .control _ devId cause => toString devId.toNat ++ (": " ++ cause.text)
  | .bind devId cause => toString devId.toNat ++ (" user channel: " ++ cause.text)
  | .closed => ""
  | .invalidDevice index => toString index
  | .noDevices reasons => reasons

/-- A message is the opening of its step and the detail. -/
theorem message_eq (error : HciError) : error.message = error.step.opening ++ error.detail := by
  cases error with
  -- The name of a controller is put together of a prefix and its number, and the opening has the prefix.
  | control op devId cause =>
    calc message (.control op devId cause)
        = "can't " ++ op.text ++ " " ++ ("hci" ++ toString devId.toNat) ++ ": " ++ cause.text := rfl
      _ = "can't " ++ op.text ++ (" " ++ "hci") ++ (toString devId.toNat ++ (": " ++ cause.text)) := by
        simp only [String.append_assoc]
      _ = (Step.control op).opening ++ detail (.control op devId cause) := by
        rw [show " " ++ "hci" = " hci" by decide, Step.opening, detail]
  | bind devId cause =>
    calc message (.bind devId cause)
        = "can't bind socket to " ++ ("hci" ++ toString devId.toNat) ++ " user channel: " ++ cause.text := rfl
      _ = "can't bind socket to " ++ "hci" ++ (toString devId.toNat ++ (" user channel: " ++ cause.text)) := by
        simp only [String.append_assoc]
      _ = Step.bind.opening ++ detail (.bind devId cause) := by
        rw [show "can't bind socket to " ++ "hci" = "can't bind socket to hci" by decide, Step.opening, detail]
  | closed =>
    rw [detail, String.append_empty]
    rfl
  | _ => rfl

theorem toList_message (error : HciError) :
    error.message.toList = error.step.opening.toList ++ error.detail.toList := by
  rw [message_eq, String.toList_append]

/-- Of two equal messages one opening begins the other, so they are the same. -/
theorem step_eq_of_message (hsame : error.message = other.message) : error.step = other.step := by
  have hleft : error.step.opening.toList <+: error.message.toList := ⟨_, (toList_message error).symm⟩
  have hright : other.step.opening.toList <+: error.message.toList := by
    rw [hsame]
    exact ⟨_, (toList_message other).symm⟩
  -- Both openings stand in front of one text, so one of them begins the other.
  obtain hopening | hopening := List.prefix_or_prefix_of_prefix hleft hright
  · exact Step.eq_of_opening_starts hopening
  · exact (Step.eq_of_opening_starts hopening).symm

/-- What follows the opening is the same, since the openings are. -/
theorem detail_eq_of_message (hsame : error.message = other.message) : error.detail = other.detail := by
  have hwhole : error.step.opening.toList ++ error.detail.toList =
      error.step.opening.toList ++ other.detail.toList := by
    rw [← toList_message, hsame, toList_message, step_eq_of_message hsame]
  exact String.toList_inj.mp (List.append_cancel_left hwhole)

/-- What follows the number of a controller is told apart from it. -/
theorem numbered_inj {devId devId' : UInt16} (stop : Char) (mark : List Char) {text text' : String}
    (hstop : stop.isDigit = false)
    (hsame : toString devId.toNat ++ (String.ofList (stop :: mark) ++ text) =
      toString devId'.toNat ++ (String.ofList (stop :: mark) ++ text')) : devId = devId' ∧ text = text' := by
  have hlist := congrArg String.toList hsame
  simp only [String.toList_append, Nat.toString_eq_repr, String.toList_ofList] at hlist
  obtain ⟨hnumber, htext⟩ := repr_append_inj hstop hlist
  exact ⟨UInt16.toNat_inj.mp hnumber, String.toList_inj.mp htext⟩

/-! ## The main result -/

/-- Two failures that are told alike: of one step, on one controller or with one value, and with one text of the call
that failed. -/
inductive Alike : HciError → HciError → Prop where
  | socket {cause cause' : IoError} (htext : cause.text = cause'.text) : Alike (.socket cause) (.socket cause')
  | control (op : ControlOp) (devId : UInt16) {cause cause' : IoError} (htext : cause.text = cause'.text) :
    Alike (.control op devId cause) (.control op devId cause')
  | deviceList {cause cause' : IoError} (htext : cause.text = cause'.text) :
    Alike (.deviceList cause) (.deviceList cause')
  | bind (devId : UInt16) {cause cause' : IoError} (htext : cause.text = cause'.text) :
    Alike (.bind devId cause) (.bind devId cause')
  | receive {cause cause' : IoError} (htext : cause.text = cause'.text) : Alike (.receive cause) (.receive cause')
  | send {cause cause' : IoError} (htext : cause.text = cause'.text) : Alike (.send cause) (.send cause')
  | close {cause cause' : IoError} (htext : cause.text = cause'.text) : Alike (.close cause) (.close cause')
  | closed : Alike .closed .closed
  | invalidDevice (index : Int) : Alike (.invalidDevice index) (.invalidDevice index)
  | noDevices (reasons : String) : Alike (.noDevices reasons) (.noDevices reasons)

/-- Failures that are told alike are of one step. -/
theorem Alike.step_eq (halike : Alike error other) : error.step = other.step := by
  cases halike <;> rfl

theorem Alike.detail_eq (halike : Alike error other) : error.detail = other.detail := by
  cases halike <;> simp only [detail, *]

theorem Alike.message_eq (halike : Alike error other) : error.message = other.message := by
  rw [HciError.message_eq error, HciError.message_eq other, halike.step_eq, halike.detail_eq]

theorem Alike.devId?_eq (halike : Alike error other) : error.devId? = other.devId? := by
  cases halike <;> rfl

/-- Failures with one message are told alike. -/
theorem alike_of_message (hsame : error.message = other.message) : Alike error other := by
  have hstep := step_eq_of_message hsame
  have hdetail := detail_eq_of_message hsame
  -- Only pairs of one step are left, and the detail decides within a step.
  cases error <;> cases other <;> cases hstep
  case control.control.refl op devId cause devId' cause' =>
    obtain ⟨rfl, htext⟩ := numbered_inj ':' [' '] (by decide) hdetail
    exact .control op devId htext
  case bind.bind.refl devId cause devId' cause' =>
    obtain ⟨rfl, htext⟩ := numbered_inj ' ' "user channel: ".toList (by decide) hdetail
    exact .bind devId htext
  case invalidDevice.invalidDevice.refl index index' =>
    obtain rfl : index = index' := Int.repr_inj.mp hdetail
    exact .invalidDevice index
  case noDevices.noDevices.refl reasons reasons' =>
    obtain rfl : reasons = reasons' := hdetail
    exact .noDevices reasons
  case closed.closed.refl => exact .closed
  case socket.socket.refl => exact .socket hdetail
  case deviceList.deviceList.refl => exact .deviceList hdetail
  case receive.receive.refl => exact .receive hdetail
  case send.send.refl => exact .send hdetail
  case close.close.refl => exact .close hdetail

/-- What the message of an error tells of the failure, set beside that of another. -/
structure SaysWhich (error other : HciError) : Prop where
  alike : error.message = other.message ↔ Alike error other
  /-- Failures of two steps are told apart, whatever the texts of the failed calls are. -/
  steps : error.step ≠ other.step → error.message ≠ other.message
  /-- So are failures on two controllers, and on one and on none. -/
  controllers : error.devId? ≠ other.devId? → error.message ≠ other.message

/-- **A message tells which failure it is about.** -/
theorem saysWhich (error other : HciError) : SaysWhich error other where
  alike := ⟨alike_of_message, Alike.message_eq⟩
  steps hsteps hsame := hsteps (alike_of_message hsame).step_eq
  controllers hcontrollers hsame := hcontrollers (alike_of_message hsame).devId?_eq

/-- A text that goes on with a digit does not make one controller's failure look like another's. -/
theorem saysWhich_digit :
    (control .up 1 (.custom .other "1: busy")).message ≠ (control .up 11 (.custom .other "busy")).message :=
  (saysWhich _ _).controllers (by decide)

end HciError

end HciTransport
