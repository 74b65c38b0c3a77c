/-!
# The pieces of a text

A text that is put together of parts with a mark between them falls into these parts again where it is split at the
mark, if none of them has the mark in it (`pieces_intercalate`).
-/

namespace HciTransport.Text

variable {mark : Char} {parts : List String}

/-- What stands before, between and behind the marks in a text. -/
def pieces (mark : Char) (text : String) : List String := (text.split mark).toList.map (·.copy)

/-- Parts without the mark are found again between the marks. -/
theorem pieces_intercalate (hparts : parts ≠ []) (hfree : ∀ part ∈ parts, mark ∉ part.toList) :
    pieces mark ((String.singleton mark).intercalate parts) = parts := by
  rw [pieces, String.toList_split_intercalate hfree, if_neg hparts]

/-- What is in a text that is put together so is in the mark or in a part. -/
theorem mem_intercalate {c : Char} {between : String} (hmem : c ∈ (between.intercalate parts).toList) :
    c ∈ between.toList ∨ ∃ part ∈ parts, c ∈ part.toList := by
  -- The mark stands between two parts, so the last part is a case of its own.
  induction parts with
  | nil =>
    rw [String.intercalate_nil] at hmem
    cases hmem
  | cons first parts ih =>
    cases parts with
    | nil =>
      rw [String.intercalate_singleton] at hmem
      exact .inr ⟨first, List.mem_cons_self, hmem⟩
    | cons second parts =>
      rw [String.intercalate_cons_cons, String.toList_append, String.toList_append, List.mem_append,
        List.mem_append] at hmem
      rcases hmem with (hmem | hmem) | hmem
      · exact .inr ⟨first, List.mem_cons_self, hmem⟩
      · exact .inl hmem
      · rcases ih hmem with hbetween | ⟨part, hpart, hc⟩
        · exact .inl hbetween
        · exact .inr ⟨part, List.mem_cons_of_mem _ hpart, hc⟩

end HciTransport.Text
