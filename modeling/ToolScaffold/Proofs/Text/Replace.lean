import Mathlib.Data.List.Infix

/-!
# Replacing a text

`replaceAll` replaces every occurrence of a pattern by a value, from left to right; what an
occurrence is replaced by is not searched again.
-/

namespace ToolScaffold.Text

/-- The characters with every occurrence of the pattern, which is not empty, replaced. -/
def replaceAll (pattern value : List Char) : List Char → List Char
  | [] => []
  | c :: rest =>
    if pattern <+: c :: rest then value ++ replaceAll pattern value (rest.drop (pattern.length - 1))
    else c :: replaceAll pattern value rest
termination_by cs => cs.length
decreasing_by all_goals simp only [List.length_drop, List.length_cons]; omega

variable {pattern value : List Char}

theorem replaceAll_nil : replaceAll pattern value [] = [] := by
  rw [replaceAll]

theorem replaceAll_cons_neg {c : Char} {rest : List Char}
    (h : ¬pattern <+: c :: rest) :
    replaceAll pattern value (c :: rest) = c :: replaceAll pattern value rest := by
  rw [replaceAll, if_neg h]

theorem replaceAll_cons_pos {c : Char} {rest : List Char} (h : pattern <+: c :: rest) :
    replaceAll pattern value (c :: rest) =
      value ++ replaceAll pattern value (rest.drop (pattern.length - 1)) := by
  rw [replaceAll, if_pos h]

theorem replaceAll_pattern_append (hne : pattern ≠ []) (rest : List Char) :
    replaceAll pattern value (pattern ++ rest) = value ++ replaceAll pattern value rest := by
  obtain ⟨d, tail, rfl⟩ := List.exists_cons_of_ne_nil hne
  have hstarts : d :: tail <+: d :: (tail ++ rest) := List.prefix_append (d :: tail) rest
  rw [List.cons_append, replaceAll_cons_pos hstarts, List.length_cons, Nat.add_sub_cancel,
    List.drop_left]

/-- What comes before the first occurrence of the pattern's first character is kept. -/
theorem replaceAll_append_of_not_mem {d : Char} {tail front : List Char} (h : d ∉ front)
    (rest : List Char) :
    replaceAll (d :: tail) value (front ++ rest) =
      front ++ replaceAll (d :: tail) value rest := by
  induction front with
  | nil => rfl
  | cons c front ih =>
    rw [List.mem_cons, not_or] at h
    have hstarts : ¬d :: tail <+: c :: (front ++ rest) := by
      intro hstarts
      exact h.1 (List.cons_prefix_cons.1 hstarts).1
    rw [List.cons_append, replaceAll_cons_neg hstarts, ih h.2, List.cons_append]

/-- A single character is replaced wherever it stands. -/
theorem replaceAll_singleton (d : Char) (value cs : List Char) :
    replaceAll [d] value cs = cs.flatMap fun c => if c = d then value else [c] := by
  induction cs with
  | nil => exact replaceAll_nil
  | cons c cs ih =>
    rw [List.flatMap_cons, ← ih]
    by_cases hc : c = d
    · rw [if_pos hc, hc]
      exact replaceAll_pattern_append (List.cons_ne_nil d []) cs
    · have hstarts : ¬[d] <+: c :: cs :=
        fun hstarts => hc (List.cons_prefix_cons.1 hstarts).1.symm
      rw [if_neg hc, replaceAll_cons_neg hstarts, List.singleton_append]

/-- A pattern that is replaced by itself changes nothing. -/
theorem replaceAll_self (hne : pattern ≠ []) (cs : List Char) :
    replaceAll pattern pattern cs = cs := by
  induction cs using replaceAll.induct pattern with
  | case1 => exact replaceAll_nil
  | case2 c rest h ih =>
    obtain ⟨after, hafter⟩ := h
    have hdrop : rest.drop (pattern.length - 1) = after := by
      obtain ⟨d, tail, rfl⟩ := List.exists_cons_of_ne_nil hne
      rw [List.cons_append, List.cons.injEq] at hafter
      rw [← hafter.2, List.length_cons, Nat.add_sub_cancel, List.drop_left]
    rw [hdrop] at ih
    rw [← hafter, replaceAll_pattern_append hne, ih]
  | case3 c rest h ih => rw [replaceAll_cons_neg h, ih]

end ToolScaffold.Text
