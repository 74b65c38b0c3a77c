import HciTransport.CommandLine.Run
import HciTransport.Proofs.Device.Address
import HciTransport.Proofs.Device.Flags
import Mathlib

/-!
# What the lines about a controller tell

A line is made of labels with a value behind each of them (`labelled`). No value has the character in it that the
next label begins with (`apart_labelled`), so a line is known to be of these values and of no others
(`spelled_inj`). What is printed about a controller so tells all that its record has told, and the flags as far as
they have names (`infoLines_eq_iff`).
-/

namespace HciTransport.CommandLine

/-! ## Labels and values -/

/-- A line, from its labels and the value behind each of them. -/
def spelled (parts : List (String × String)) : String :=
  parts.foldr (fun (label, value) rest => label ++ (value ++ rest)) ""

/-- The value ends where the label behind it begins. -/
def Ends (value label : String) : Prop := ∃ stop rest, label.toList = stop :: rest ∧ stop ∉ value.toList

/-- Each value ends where the next label begins. -/
inductive Apart : List (String × String) → Prop where
  | last (label value : String) : Apart [(label, value)]
  | cons {label value next nextValue : String} {parts : List (String × String)} (hends : Ends value next)
      (hrest : Apart ((next, nextValue) :: parts)) : Apart ((label, value) :: (next, nextValue) :: parts)

/-- What stands before the first stop is known, and what comes after. -/
theorem append_cons_inj {stop : Char} {chars others rest rest' : List Char} (hchars : stop ∉ chars)
    (hothers : stop ∉ others) (hsame : chars ++ stop :: rest = others ++ stop :: rest') :
    chars = others ∧ rest = rest' := by
  -- Character by character, as the one text cannot reach the stop before the other does.
  induction chars generalizing others with
  | nil =>
    cases others with
    | nil => exact ⟨rfl, (List.cons.inj hsame).2⟩
    | cons other others => exact absurd (List.cons.inj hsame).1 (List.ne_of_not_mem_cons hothers)
  | cons c chars ih =>
    cases others with
    | nil => exact absurd (List.cons.inj hsame).1.symm (List.ne_of_not_mem_cons hchars)
    | cons other others =>
      obtain ⟨rfl, hlater⟩ := List.cons.inj hsame
      obtain ⟨rfl, hrest⟩ := ih (List.not_mem_of_not_mem_cons hchars) (List.not_mem_of_not_mem_cons hothers) hlater
      exact ⟨rfl, hrest⟩

/-- What stands before a label is known where the label stops it, and so is what stands after it. -/
theorem append_inj_of_ends {value other label rest rest' : String} (hvalue : Ends value label)
    (hother : Ends other label) (hsame : value ++ (label ++ rest) = other ++ (label ++ rest')) :
    value = other ∧ rest = rest' := by
  obtain ⟨stop, more, hlabel, hvalue⟩ := hvalue
  obtain ⟨stop', more', hlabel', hother⟩ := hother
  obtain ⟨rfl, rfl⟩ := List.cons.inj (hlabel.symm.trans hlabel')
  have hchars := congrArg String.toList hsame
  simp only [String.toList_append, hlabel, List.cons_append] at hchars
  obtain ⟨hsame, hrest⟩ := append_cons_inj hvalue hother hchars
  exact ⟨String.toList_inj.mp hsame, String.toList_inj.mp (List.append_cancel_left hrest)⟩

/-- **A line is known to be of its values**, where each of them ends. -/
theorem spelled_inj {parts others : List (String × String)} (hparts : Apart parts) (hothers : Apart others)
    (hlabels : parts.map (·.1) = others.map (·.1)) (hsame : spelled parts = spelled others) : parts = others := by
  -- Label by label; the labels are the same, so the values between them have to be.
  induction hparts generalizing others with
  | last label value =>
    cases hothers with
    | last label' value' =>
      obtain ⟨rfl, -⟩ := List.cons.inj hlabels
      have hvalue : value ++ "" = value' ++ "" := (String.append_right_inj label).mp hsame
      rw [String.append_empty, String.append_empty] at hvalue
      rw [hvalue]
    | cons => cases (List.cons.inj hlabels).2
  | @cons label value next nextValue parts hends hrest ih =>
    cases hothers with
    | last => cases (List.cons.inj hlabels).2
    | @cons label' value' next' nextValue' others hends' hrest' =>
      obtain ⟨rfl, hlater⟩ := List.cons.inj hlabels
      obtain ⟨rfl, -⟩ := List.cons.inj hlater
      obtain ⟨rfl, hrest⟩ := append_inj_of_ends hends hends' ((String.append_right_inj label).mp hsame)
      rw [ih hrest' hlater (congrArg (next ++ ·) hrest)]

/-- Lines with the same labels are known one by one. -/
theorem map_spelled_inj {lines others : List (List (String × String))} (hlines : ∀ parts ∈ lines, Apart parts)
    (hothers : ∀ parts ∈ others, Apart parts) (hlabels : lines.map (·.map (·.1)) = others.map (·.map (·.1)))
    (hsame : lines.map spelled = others.map spelled) : lines = others := by
  induction lines generalizing others with
  | nil => exact (List.map_eq_nil_iff.mp hsame.symm).symm
  | cons parts lines ih =>
    cases others with
    | nil => cases hsame
    | cons parts' others =>
      obtain ⟨hparts, hlines⟩ := List.forall_mem_cons.mp hlines
      obtain ⟨hparts', hothers⟩ := List.forall_mem_cons.mp hothers
      obtain ⟨hlabel, hlabels⟩ := List.cons.inj hlabels
      obtain ⟨hline, hsame⟩ := List.cons.inj hsame
      rw [spelled_inj hparts hparts' hlabel hline, ih hlines hothers hlabels hsame]

/-! ## Numbers -/

/-- The label begins with a character that is not of this kind. -/
def stops (kind : Char → Bool) (label : String) : Bool := label.toList.head?.any fun stop => !kind stop

/-- A value of one kind of character ends where a label begins with another. -/
theorem ends_of_stops {value label : String} {kind : Char → Bool} (hlabel : stops kind label)
    (hvalue : ∀ c ∈ value.toList, kind c = true) : Ends value label := by
  obtain ⟨stop, hstop, hother⟩ := (Option.any_eq_true _ _).mp hlabel
  obtain ⟨rest, hrest⟩ := List.head?_eq_some_iff.mp hstop
  refine ⟨stop, rest, hrest, fun hmem => ?_⟩
  rw [hvalue stop hmem] at hother
  cases hother

/-- A number ends where a label begins with no digit. -/
theorem ends_number {label : String} (n : Nat) (hlabel : stops Char.isDigit label) : Ends (toString n) label := by
  refine ends_of_stops hlabel fun c hmem => ?_
  rw [Nat.toString_eq_repr, Nat.toList_repr] at hmem
  exact Nat.isDigit_of_mem_toDigits (by decide) (by decide) hmem

/-- A number in hexadecimal digits ends where a label begins with none of them. -/
theorem ends_minimal {label : String} (n : Nat) (hlabel : stops (· ∈ "x0123456789abcdef".toList) label) :
    Ends (Hex.minimal n) label := by
  refine ends_of_stops hlabel fun c hmem => decide_eq_true ?_
  rw [Hex.minimal, String.toList_ofList] at hmem
  -- The two characters of the prefix, and then the digits.
  rcases List.mem_cons.mp hmem with rfl | hmem
  · decide
  rcases List.mem_cons.mp hmem with rfl | hmem
  · decide
  · exact List.mem_cons_of_mem _ (Hex.isLower_toDigits n c (by rwa [String.toList_ofList]))

/-- An address ends where a label begins with no digit and no colon. -/
theorem ends_address {label : String} (address : DeviceAddress)
    (hlabel : stops (· ∈ ":0123456789ABCDEF".toList) label) : Ends address.text label := by
  refine ends_of_stops hlabel fun c hmem => decide_eq_true ?_
  rcases Text.mem_intercalate hmem with hmem | ⟨part, hpart, hmem⟩
  · exact List.mem_singleton.mp hmem ▸ List.mem_cons_self
  · obtain ⟨b, -, rfl⟩ := List.mem_map.mp hpart
    exact List.mem_cons_of_mem _ (Hex.isUpper_pair b c hmem)

/-! ## The lines about a controller -/

/-- The labels and the values of each line. -/
def labelled (info : DeviceInfo) : List (List (String × String)) :=
  [[("hci", toString info.devId.toNat), (":\tType: ", toString info.devType.toNat), ("  Name: ", info.name)],
   [("\tBD Address: ", info.address.text), ("  ACL MTU: ", toString info.aclMtu.toNat),
     (":", toString info.aclPkts.toNat), ("  SCO MTU: ", toString info.scoMtu.toNat),
     (":", toString info.scoPkts.toNat)],
   [("\t", info.flags.text)],
   [("\tFeatures: 0x", info.featuresHex)],
   [("\tPacket type: ", Hex.minimal info.pktType.toNat), ("  Link policy: ", Hex.minimal info.linkPolicy.toNat),
     ("  Link mode: ", Hex.minimal info.linkMode.toNat)],
   [("\tRX bytes:", toString info.stats.byteRx.toNat), (" acl:", toString info.stats.aclRx.toNat),
     (" sco:", toString info.stats.scoRx.toNat), (" events:", toString info.stats.evtRx.toNat),
     (" errors:", toString info.stats.errRx.toNat)],
   [("\tTX bytes:", toString info.stats.byteTx.toNat), (" acl:", toString info.stats.aclTx.toNat),
     (" sco:", toString info.stats.scoTx.toNat), (" commands:", toString info.stats.cmdTx.toNat),
     (" errors:", toString info.stats.errTx.toNat)]]

/-- The lines about a controller are spelled of these labels and values. -/
theorem infoLines_eq (info : DeviceInfo) : infoLines info = (labelled info).map spelled := by
  simp only [infoLines, labelled, spelled, hciName, List.map_cons, List.map_nil, List.foldr_cons, List.foldr_nil,
    String.append_assoc, String.append_empty]

/-- In each line about a controller every value ends where the next label begins. -/
theorem apart_labelled (info : DeviceInfo) : ∀ parts ∈ labelled info, Apart parts := by
  intro parts hmem
  simp only [labelled, List.mem_cons, List.not_mem_nil, or_false] at hmem
  -- One line after the other: which kind of value stands before which label is read off the table.
  rcases hmem with rfl | rfl | rfl | rfl | rfl | rfl | rfl
  · exact .cons (ends_number _ (by decide)) <| .cons (ends_number _ (by decide)) <| .last ..
  · exact .cons (ends_address _ (by decide)) <| .cons (ends_number _ (by decide)) <|
      .cons (ends_number _ (by decide)) <| .cons (ends_number _ (by decide)) <| .last ..
  · exact .last ..
  · exact .last ..
  · exact .cons (ends_minimal _ (by decide)) <| .cons (ends_minimal _ (by decide)) <| .last ..
  · exact .cons (ends_number _ (by decide)) <| .cons (ends_number _ (by decide)) <|
      .cons (ends_number _ (by decide)) <| .cons (ends_number _ (by decide)) <| .last ..
  · exact .cons (ends_number _ (by decide)) <| .cons (ends_number _ (by decide)) <|
      .cons (ends_number _ (by decide)) <| .cons (ends_number _ (by decide)) <| .last ..

/-- The values are those of the record, and for the flags their text. -/
theorem labelled_eq_iff {info other : DeviceInfo} : labelled info = labelled other ↔
    { info with flags := other.flags } = other ∧ info.flags.text = other.flags.text := by
  -- Field by field, each by its own spelling.
  obtain ⟨_, _, _, _, _, _, _, _, _, _, _, _, _, ⟨_, _, _, _, _, _, _, _, _, _⟩⟩ := info
  obtain ⟨_, _, _, _, _, _, _, _, _, _, _, _, _, ⟨_, _, _, _, _, _, _, _, _, _⟩⟩ := other
  simp only [labelled, DeviceInfo.featuresHex, List.cons.injEq, Prod.mk.injEq, true_and, and_true,
    Nat.toString_eq_repr, Nat.repr_inj, UInt8.toNat_inj, UInt16.toNat_inj, UInt32.toNat_inj, DeviceAddress.text_inj,
    Hex.minimal_inj, Hex.encode_inj, Vector.toList_inj, DeviceInfo.mk.injEq, DeviceStats.mk.injEq]
  tauto

/-- **The lines tell all that the record has told, but for flags without a name.** -/
theorem infoLines_eq_iff {info other : DeviceInfo} : infoLines info = infoLines other ↔
    { info with flags := other.flags } = other ∧ info.flags.text = other.flags.text := by
  rw [← labelled_eq_iff, infoLines_eq, infoLines_eq]
  exact ⟨map_spelled_inj (apart_labelled info) (apart_labelled other) rfl, congrArg _⟩

end HciTransport.CommandLine
