import Mathlib.Data.List.Basic
import Mathlib.Data.List.Induction
import ToolScaffold.Distinct

/-!
# Occurrences

An element occurs in a list at several places, and its occurrences have an order. `Listed n xs ys`:
the list `ys` holds the elements that occur more than `n` times in `xs`, each once, by the
occurrence that comes after `n` others. So `Listed 0` lists elements by their first occurrence, as
`distinct` does (`listed_distinct`), and `Listed 1` lists those that are repeated by their second.

A list grows at its end, and what is listed grows with it: `Listed.concat` says that a new last
element is listed if it is the occurrence after `n` others.
-/

namespace ToolScaffold

variable {α : Type} [DecidableEq α]

/-- The element stands at the place, and `n` times before it. -/
structure OccursAt (n : Nat) (xs : List α) (a : α) (i : Nat) : Prop where
  getElem?_eq : xs[i]? = some a
  count_take : (xs.take i).count a = n

/-- The elements that occur more than `n` times, each once, by their occurrence after `n` others. -/
structure Listed (n : Nat) (xs ys : List α) : Prop where
  nodup : ys.Nodup
  mem_iff : ∀ a, a ∈ ys ↔ n < xs.count a
  occurs : ∀ a ∈ ys, ∃ i, OccursAt n xs a i
  ordered : ys.Pairwise fun a b => ∃ i j, OccursAt n xs a i ∧ OccursAt n xs b j ∧ i < j

variable {n : Nat} {xs ys : List α} {a : α} {i : Nat}

namespace OccursAt

theorem lt_length (h : OccursAt n xs a i) : i < xs.length :=
  (List.getElem?_eq_some_iff.1 h.getElem?_eq).1

theorem append (h : OccursAt n xs a i) (more : List α) : OccursAt n (xs ++ more) a i where
  getElem?_eq := by rw [List.getElem?_append_left h.lt_length, h.getElem?_eq]
  count_take := by rw [List.take_append_of_le_length (Nat.le_of_lt h.lt_length), h.count_take]

theorem concat (a : α) (h : xs.count a = n) : OccursAt n (xs ++ [a]) a xs.length where
  getElem?_eq := List.getElem?_concat_length
  count_take := by rw [List.take_left, h]

end OccursAt

namespace Listed

theorem nil (n : Nat) : Listed n ([] : List α) [] where
  nodup := List.nodup_nil
  mem_iff := by simp
  occurs := by simp
  ordered := .nil

/-- **A new last element** is listed if it has occurred `n` times before. -/
theorem concat (h : Listed n xs ys) (a : α) :
    Listed n (xs ++ [a]) (ys ++ if xs.count a = n then [a] else []) := by
  have hordered : ys.Pairwise fun b c =>
      ∃ i j, OccursAt n (xs ++ [a]) b i ∧ OccursAt n (xs ++ [a]) c j ∧ i < j := by
    refine h.ordered.imp ?_
    rintro b c ⟨i, j, hi, hj, hlt⟩
    exact ⟨i, j, hi.append [a], hj.append [a], hlt⟩
  have hcount : ∀ b, (xs ++ [a]).count b = xs.count b + if a = b then 1 else 0 := by
    intro b
    rw [List.count_append, List.count_singleton]
    simp only [beq_iff_eq]
  by_cases hn : xs.count a = n
  · rw [if_pos hn]
    have hfresh : a ∉ ys := by
      rw [h.mem_iff, hn]
      exact Nat.lt_irrefl n
    have hlast : OccursAt n (xs ++ [a]) a xs.length := .concat a hn
    refine ⟨List.nodup_append.2 ⟨h.nodup, by simp, ?_⟩, ?_, ?_, ?_⟩
    · intro b hb c hc
      rw [List.mem_singleton.1 hc]
      rintro rfl
      exact hfresh hb
    · intro b
      rw [List.mem_append, h.mem_iff, List.mem_singleton, hcount]
      by_cases hb : a = b
      · subst hb
        simp [hn]
      · simp [hb, Ne.symm hb]
    · intro b hb
      rcases List.mem_append.1 hb with hb | hb
      · obtain ⟨i, hi⟩ := h.occurs b hb
        exact ⟨i, hi.append [a]⟩
      · rw [List.mem_singleton.1 hb]
        exact ⟨_, hlast⟩
    · refine List.pairwise_append.2 ⟨hordered, List.pairwise_singleton _ _, ?_⟩
      intro b hb c hc
      rw [List.mem_singleton.1 hc]
      obtain ⟨i, hi⟩ := h.occurs b hb
      exact ⟨i, xs.length, hi.append [a], hlast, hi.lt_length⟩
  · rw [if_neg hn, List.append_nil]
    refine ⟨h.nodup, ?_, ?_, hordered⟩
    · intro b
      rw [h.mem_iff, hcount]
      by_cases hb : a = b
      · subst hb
        rw [if_pos rfl]
        omega
      · rw [if_neg hb, Nat.add_zero]
    · intro b hb
      obtain ⟨i, hi⟩ := h.occurs b hb
      exact ⟨i, hi.append [a]⟩

end Listed

/-! ## First occurrences -/

theorem distinct_concat (xs : List α) (a : α) :
    distinct (xs ++ [a]) = distinct xs ++ if a ∈ xs then [] else [a] := by
  induction xs with
  | nil => simp [distinct]
  | cons b rest ih =>
    rw [List.cons_append, distinct, distinct, ih, List.filter_append, List.cons_append]
    by_cases hb : a = b
    · subst hb
      by_cases ha : a ∈ rest <;> simp [ha]
    · by_cases ha : a ∈ rest <;> simp [ha, hb]

theorem distinct_filter (p : α → Bool) (xs : List α) :
    distinct (xs.filter p) = (distinct xs).filter p := by
  induction xs with
  | nil => rfl
  | cons b rest ih =>
    by_cases hb : p b = true
    · rw [List.filter_cons_of_pos hb, distinct, distinct, List.filter_cons_of_pos hb, ih,
        List.filter_comm]
    · rw [List.filter_cons_of_neg hb, distinct, List.filter_cons_of_neg hb, ih, List.filter_filter]
      refine List.filter_congr fun c _ => ?_
      by_cases hc : c = b
      · subst hc
        simp [hb]
      · simp [hc]

theorem distinct_map {β : Type} [DecidableEq β] {f : α → β} (hf : Function.Injective f)
    (xs : List α) : distinct (xs.map f) = (distinct xs).map f := by
  induction xs with
  | nil => rfl
  | cons b rest ih =>
    rw [List.map_cons, distinct, distinct, ih, List.filter_map, List.map_cons]
    simp only [Function.comp_def, hf.ne_iff]

/-- **`distinct` lists** each element by its first occurrence. -/
theorem listed_distinct (xs : List α) : Listed 0 xs (distinct xs) := by
  induction xs using List.reverseRecOn with
  | nil => exact .nil 0
  | append_singleton xs a ih =>
    have h := ih.concat a
    rw [distinct_concat]
    by_cases ha : a ∈ xs
    · have hcount : xs.count a ≠ 0 := Nat.ne_of_gt (List.count_pos_iff.2 ha)
      rw [if_neg hcount] at h
      rwa [if_pos ha]
    · rw [if_pos (List.count_eq_zero.2 ha)] at h
      rwa [if_neg ha]

end ToolScaffold
