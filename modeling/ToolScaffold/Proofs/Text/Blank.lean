import Mathlib.Data.List.DropRight
import ToolScaffold.Text.Blank

/-!
# Trimming

`trim_trim`: a trimmed text has no white space at its ends, so trimming it again changes nothing.
Nothing is left of a text exactly if it is blank (`trim_eq_empty_iff`).
-/

namespace ToolScaffold.Text

/-- What is dropped at the front stays dropped when the end is dropped as well. -/
theorem dropWhile_rdropWhile {p : Char → Bool} (cs : List Char) (h : cs.dropWhile p = cs) :
    (cs.rdropWhile p).dropWhile p = cs.rdropWhile p := by
  obtain ⟨back, hback⟩ := List.rdropWhile_prefix p cs
  cases hfront : cs.rdropWhile p with
  | nil => rfl
  | cons c front =>
    rw [hfront, List.cons_append] at hback
    rw [← hback] at h
    have hc : ¬p c = true := by
      intro hc
      rw [List.dropWhile_cons_of_pos hc] at h
      have hlength := (List.dropWhile_sublist p (l := front ++ back)).length_le
      rw [h, List.length_cons] at hlength
      omega
    exact List.dropWhile_cons_of_neg hc

theorem trimChars_trimChars (cs : List Char) : trimChars (trimChars cs) = trimChars cs := by
  have hfront := dropWhile_rdropWhile (cs.dropWhile isBlankChar) (List.dropWhile_idempotent _ _)
  calc trimChars (trimChars cs)
      = (((cs.dropWhile isBlankChar).rdropWhile isBlankChar).dropWhile isBlankChar).rdropWhile
          isBlankChar := rfl
    _ = ((cs.dropWhile isBlankChar).rdropWhile isBlankChar).rdropWhile isBlankChar := by rw [hfront]
    _ = (cs.dropWhile isBlankChar).rdropWhile isBlankChar := List.rdropWhile_idempotent _ _

/-- **Trimming twice is trimming once.** -/
theorem trim_trim (s : String) : trim (trim s) = trim s := by
  rw [trim, trim, String.toList_ofList, trimChars_trimChars]

/-- **Nothing is left** of a text that is blank, and of no other. -/
theorem trim_eq_empty_iff (s : String) : trim s = "" ↔ isBlank s = true := by
  rw [trim, String.ofList_eq_empty_iff, isBlank, List.all_eq_true]
  change (s.toList.dropWhile isBlankChar).rdropWhile isBlankChar = [] ↔ _
  -- all that is left at the front is blank only if nothing is left there
  rw [List.rdropWhile_eq_nil_iff, ← List.dropWhile_eq_nil_iff, List.dropWhile_idempotent,
    List.dropWhile_eq_nil_iff]

/-- A text without white space is trimmed. -/
theorem trim_of_forall {s : String} (h : ∀ c ∈ s.toList, isBlankChar c = false) : trim s = s := by
  have hneg : ∀ c ∈ s.toList, ¬isBlankChar c = true := by
    intro c hc
    rw [h c hc]
    exact Bool.false_ne_true
  have hdrop : s.toList.dropWhile isBlankChar = s.toList := by
    rw [List.dropWhile_eq_self_iff]
    exact fun hl => hneg _ (List.getElem_mem hl)
  have htrim : trimChars s.toList = s.toList := by
    change (s.toList.dropWhile isBlankChar).rdropWhile isBlankChar = s.toList
    rw [hdrop, List.rdropWhile_eq_self_iff]
    exact fun hl => hneg _ (List.getLast_mem hl)
  rw [trim, htrim, String.ofList_toList]

end ToolScaffold.Text
