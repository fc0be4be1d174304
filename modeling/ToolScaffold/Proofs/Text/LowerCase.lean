import ToolScaffold.Text.LowerCase

/-!
# Lower case and the letters from `A` to `Z`

`isUpper_lower`: a text in lower case holds none of the letters from `A` to `Z`, whatever it was
made of. No other character has one of them for its lower-case form (`caseRuns_above`), and each of
them has another form.

Below the range of the other scripts, these letters are all that changes (`lower_of_plain`). Nothing
ever vanishes, so only the empty text has an empty lower case (`lower_eq_empty_iff`).
-/

namespace ToolScaffold.Text

theorem isUpper_eq_false_iff (c : Char) :
    c.isUpper = false ↔ ¬(0x41 ≤ c.toNat ∧ c.toNat ≤ 0x5A) := by
  rw [← Bool.not_eq_true, not_congr]
  change decide (0x41 ≤ c.val ∧ c.val ≤ 0x5A) = true ↔ 0x41 ≤ c.val.toNat ∧ c.val.toNat ≤ 0x5A
  rw [decide_eq_true_eq, UInt32.le_iff_toNat_le, UInt32.le_iff_toNat_le]
  rfl

/-- The lower-case forms lie above the capital letters. -/
theorem caseRuns_above : ∀ r ∈ caseRuns, 0x5B ≤ (r.first : Int) + r.distance := by decide +kernel

theorem isUpper_ofNat {n : Nat} (h : 0x5B ≤ n) : (Char.ofNat n).isUpper = false := by
  rw [isUpper_eq_false_iff]
  by_cases hvalid : n.isValidChar
  · rw [Char.ofNat, dif_pos hvalid]
    have hnat : (Char.ofNatAux n hvalid).toNat = n := rfl
    omega
  · rw [Char.ofNat, dif_neg hvalid]
    decide

theorem isUpper_lowerChar (c : Char) : ∀ d ∈ lowerChar c, d.isUpper = false := by
  intro d hd
  unfold lowerChar at hd
  split at hd
  · rw [List.mem_cons, List.mem_singleton] at hd
    rcases hd with rfl | rfl <;> decide
  · cases hfind : caseRuns.find? (·.holds c.toNat) with
    | some r =>
      rw [hfind, List.mem_singleton] at hd
      subst hd
      have habove := caseRuns_above r (List.mem_of_find?_eq_some hfind)
      have hholds := List.find?_some hfind
      simp only [CaseRun.holds, Bool.and_eq_true, decide_eq_true_eq] at hholds
      exact isUpper_ofNat (by omega)
    | none =>
      rw [hfind, List.mem_singleton] at hd
      subst hd
      -- a letter from `A` to `Z` would have been found in the first run of the table
      have hlatin := List.find?_eq_none.1 hfind ⟨0x0041, 0x005A, 1, 32⟩ List.mem_cons_self
      simp only [CaseRun.holds, Nat.mod_one, beq_self_eq_true, Bool.and_true, Bool.and_eq_true,
        decide_eq_true_eq] at hlatin
      exact (isUpper_eq_false_iff d).2 hlatin

theorem isUpper_lowerAfter (before cs : List Char) :
    ∀ d ∈ lowerAfter before cs, d.isUpper = false := by
  induction cs generalizing before with
  | nil => intro d hd; cases hd
  | cons c cs ih =>
    intro d hd
    rw [lowerAfter] at hd
    rcases List.mem_append.1 hd with hform | hrest
    · split at hform
      · rw [List.mem_singleton] at hform
        subst hform
        split <;> decide
      · exact isUpper_lowerChar c d hform
    · exact ih (c :: before) d hrest

/-- **Lower case has no capital letters.** -/
theorem isUpper_lower (s : String) : ∀ d ∈ (lower s).toList, d.isUpper = false := by
  rw [lower, String.toList_ofList]
  exact isUpper_lowerAfter [] s.toList

/-! ## What lower case keeps -/

/-- The character lies below those of other scripts, and is no capital letter. -/
def IsPlain (c : Char) : Prop := c.toNat < 0x80 ∧ c.isUpper = false

theorem caseRuns_first : ∀ r ∈ caseRuns, r.first = 0x41 ∧ r.last = 0x5A ∨ 0x80 ≤ r.first := by
  decide +kernel

theorem lowerChar_of_plain {c : Char} (h : IsPlain c) : lowerChar c = [c] := by
  have hcapital := (isUpper_eq_false_iff c).1 h.2
  have hnone : caseRuns.find? (·.holds c.toNat) = none := by
    rw [List.find?_eq_none]
    intro r hr hholds
    simp only [CaseRun.holds, Bool.and_eq_true, decide_eq_true_eq] at hholds
    have hlow := h.1
    rcases caseRuns_first r hr with ⟨hfirst, hlast⟩ | hfirst
    · omega
    · omega
  have hdotted : c.toNat ≠ 0x0130 := by
    have hlow := h.1
    omega
  rw [lowerChar, if_neg hdotted, hnone]

theorem lowerAfter_of_plain (before : List Char) {cs : List Char} (h : ∀ c ∈ cs, IsPlain c) :
    lowerAfter before cs = cs := by
  induction cs generalizing before with
  | nil => rfl
  | cons c rest ih =>
    rw [List.forall_mem_cons] at h
    have hsigma : c ≠ capitalSigma := by
      rintro rfl
      exact absurd h.1.1 (by decide)
    rw [lowerAfter, ih (c :: before) h.2, if_neg hsigma, lowerChar_of_plain h.1,
      List.singleton_append]

/-- **A plain text is in lower case.** -/
theorem lower_of_plain {s : String} (h : ∀ c ∈ s.toList, IsPlain c) : lower s = s := by
  rw [lower, lowerAfter_of_plain [] h, String.ofList_toList]

theorem lowerChar_ne_nil (c : Char) : lowerChar c ≠ [] := by
  unfold lowerChar
  split
  · exact List.cons_ne_nil _ _
  · split <;> exact List.cons_ne_nil _ _

theorem lowerAfter_eq_nil_iff (before cs : List Char) : lowerAfter before cs = [] ↔ cs = [] := by
  cases cs with
  | nil => exact iff_of_true rfl rfl
  | cons c rest =>
    refine iff_of_false ?_ (List.cons_ne_nil _ _)
    rw [lowerAfter, List.append_eq_nil_iff]
    rintro ⟨hform, -⟩
    split at hform
    · exact List.cons_ne_nil _ _ hform
    · exact lowerChar_ne_nil c hform

theorem lower_eq_empty_iff (s : String) : lower s = "" ↔ s = "" := by
  rw [lower, String.ofList_eq_empty_iff, lowerAfter_eq_nil_iff, String.toList_eq_nil_iff]

end ToolScaffold.Text
