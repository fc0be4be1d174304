import Mathlib.Data.List.Chain
import ToolScaffold.Path

/-!
# Paths and what they go through

A name that is joined to a path is its last step (`steps_join`) and its last part
(`components_join`). The directories above a path are beginnings of it (`begins_of_mem_ancestors`),
and each of them lies directly in the next (`isChain_ancestors`).
-/

namespace ToolScaffold.Path

theorem split_ne_nil (xs : List Char) : split xs ≠ [] := by
  cases xs with
  | nil => simp [split]
  | cons c rest =>
    rw [split]
    split
    · simp
    · split <;> simp

theorem split_append (xs ys : List Char) : split (xs ++ '/' :: ys) = split xs ++ split ys := by
  induction xs with
  | nil => simp [split]
  | cons c rest ih =>
    rw [List.cons_append, split, split, ih]
    split
    · rfl
    · cases h : split rest with
      | nil => exact absurd h (split_ne_nil rest)
      | cons part parts => rfl

theorem split_of_notMem {xs : List Char} (h : '/' ∉ xs) : split xs = [xs] := by
  induction xs with
  | nil => rfl
  | cons c rest ih =>
    rw [List.mem_cons, not_or] at h
    rw [split, if_neg (Ne.symm h.1), ih h.2]

/-- A name of something inside of a directory. -/
structure IsName (name : String) : Prop where
  notMem_slash : '/' ∉ name.toList
  ne_empty : name ≠ ""
  ne_dot : name ≠ "."
  ne_dots : name ≠ ".."

theorem steps_mk {name : String} (h : '/' ∉ name.toList) : (Path.mk name).steps = [name] := by
  simp [steps, split_of_notMem h]

theorem steps_mk_append (front : String) {name : String} (h : '/' ∉ name.toList) :
    (Path.mk (front ++ "/" ++ name)).steps = (Path.mk front).steps ++ [name] := by
  have htext : (front ++ "/" ++ name).toList = front.toList ++ '/' :: name.toList := by simp
  simp [steps, htext, split_append, split_of_notMem h]

theorem not_isAbsolute_mk {name : String} (h : '/' ∉ name.toList) :
    ¬(Path.mk name).isAbsolute = true := by
  intro habsolute
  exact h (List.mem_of_mem_head? (of_decide_eq_true habsolute))

/-- A name that is joined to a path comes after the path, and after a slash if one is missing. -/
theorem text_join (p : Path) {name : String} (h : '/' ∉ name.toList) :
    (p.text = "" ∧ p.join name = ⟨name⟩) ∨
      (∃ front, p.text = front ++ "/" ∧ p.join name = ⟨front ++ "/" ++ name⟩) ∨
      (p.text ≠ "" ∧ p.join name = ⟨p.text ++ "/" ++ name⟩) := by
  unfold join
  split
  · next hjoin => exact .inl ⟨hjoin.resolve_left (not_isAbsolute_mk h), rfl⟩
  · next hjoin =>
    rw [not_or] at hjoin
    split
    · next hlast =>
      obtain ⟨front, hfront⟩ := List.getLast?_eq_some_iff.mp hlast
      have htext : p.text = String.ofList front ++ "/" := by
        rw [← String.toList_inj]
        simp [hfront]
      exact .inr (.inl ⟨_, htext, by rw [htext]⟩)
    · exact .inr (.inr ⟨hjoin.2, rfl⟩)

/-- A name that is joined to a path comes after the steps of the path, but for an empty last step:
that is what stands behind a slash at the end, and all there is in the empty path. -/
theorem steps_join (p : Path) {name : String} (h : '/' ∉ name.toList) :
    ∃ front, (p.join name).steps = front ++ [name] ∧
      (p.steps = front ∨ p.steps = front ++ [""]) := by
  rcases text_join p h with ⟨hempty, hjoin⟩ | ⟨front, hslash, hjoin⟩ | ⟨-, hjoin⟩
  · exact ⟨[], hjoin ▸ steps_mk h, .inr (by rw [steps, hempty]; rfl)⟩
  · refine ⟨(Path.mk front).steps, hjoin ▸ steps_mk_append _ h, .inr ?_⟩
    have hsteps := steps_mk_append front (show '/' ∉ "".toList from List.not_mem_nil)
    rw [String.append_empty, ← hslash] at hsteps
    exact hsteps
  · exact ⟨p.steps, hjoin ▸ steps_mk_append _ h, .inl rfl⟩

theorem isAbsolute_join (p : Path) {name : String} (h : '/' ∉ name.toList) :
    (p.join name).isAbsolute = p.isAbsolute := by
  have hfront : ∀ front : String, (Path.mk (front ++ "/" ++ name)).isAbsolute =
      (Path.mk (front ++ "/")).isAbsolute := by
    intro front
    cases hlist : front.toList <;> simp [isAbsolute, hlist]
  rcases text_join p h with ⟨hempty, hjoin⟩ | ⟨front, hslash, hjoin⟩ | ⟨hne, hjoin⟩
  · have hp : ¬p.isAbsolute = true := by simp [isAbsolute, hempty]
    rw [hjoin, Bool.eq_false_iff.2 hp, Bool.eq_false_iff.2 (not_isAbsolute_mk h)]
  · rw [hjoin, hfront, ← hslash]
  · rw [hjoin, hfront]
    cases hlist : p.text.toList with
    | nil => exact absurd (String.toList_eq_nil_iff.1 hlist) hne
    | cons c rest => simp [isAbsolute, hlist]

theorem subset_text_join (p : Path) {name : String} (h : '/' ∉ name.toList) :
    p.text.toList ⊆ (p.join name).text.toList := by
  rcases text_join p h with ⟨hempty, hjoin⟩ | ⟨front, hslash, hjoin⟩ | ⟨-, hjoin⟩
  · simp [hempty]
  · rw [hjoin, hslash]
    simp only [String.toList_append]
    exact List.subset_append_left _ _
  · rw [hjoin]
    simp only [String.toList_append, List.append_assoc]
    exact List.subset_append_left _ _

theorem utf8ByteSize_le_join (p : Path) {name : String} (h : '/' ∉ name.toList) :
    p.text.utf8ByteSize ≤ (p.join name).text.utf8ByteSize := by
  rcases text_join p h with ⟨hempty, hjoin⟩ | ⟨front, hslash, hjoin⟩ | ⟨-, hjoin⟩
  · rw [hempty]
    exact Nat.zero_le _
  · rw [hjoin, hslash]
    simp only [String.utf8ByteSize_append]
    exact Nat.le_add_right _ _
  · rw [hjoin]
    simp only [String.utf8ByteSize_append, Nat.add_assoc]
    exact Nat.le_add_right _ _

/-- The parts that count among the steps, the first of which is given. -/
theorem components_of_steps {p : Path} {first : String} {rest : List String}
    (h : p.steps = first :: rest) :
    p.components = (if first = "." ∨ counts first then [first] else []) ++ rest.filter counts := by
  rw [components, h]

theorem counts_empty : counts "" = false := rfl

theorem IsName.counts {name : String} (h : IsName name) : counts name = true := by
  simp [Path.counts, h.ne_empty, h.ne_dot]

theorem steps_ne_nil (p : Path) : p.steps ≠ [] := by
  rw [steps, ne_eq, List.map_eq_nil_iff]
  exact split_ne_nil _

/-- A last step that is a name counts. -/
theorem components_concat {p q : Path} {front : List String} {name : String} (hname : IsName name)
    (hp : p.steps = front ++ [name]) (hq : q.steps = front ∨ q.steps = front ++ [""]) :
    p.components = q.components ++ [name] := by
  cases front with
  | nil =>
    have hq' : q.steps = [""] := hq.resolve_left (steps_ne_nil q)
    rw [components_of_steps hp, components_of_steps hq']
    simp [hname.counts, counts_empty]
  | cons first rest =>
    rw [List.cons_append] at hp hq
    rcases hq with hq | hq
    · rw [components_of_steps hp, components_of_steps hq]
      simp [hname.counts]
    · rw [components_of_steps hp, components_of_steps hq]
      simp [hname.counts, counts_empty]

/-- **A name that is joined to a path** is one more part of it. -/
theorem components_join (p : Path) {name : String} (h : IsName name) :
    (p.join name).components = p.components ++ [name] := by
  obtain ⟨front, hjoin, hp⟩ := steps_join p h.notMem_slash
  exact components_concat h hjoin hp

/-! ## Directories above -/

theorem intercalate_cons_of_ne_nil {α : Type} (sep x : List α) {xs : List (List α)} (h : xs ≠ []) :
    sep.intercalate (x :: xs) = x ++ sep ++ sep.intercalate xs := by
  cases xs with
  | nil => exact absurd rfl h
  | cons y ys => exact List.intercalate_cons_cons

theorem intercalate_prefix {α : Type} (sep : List α) {xs : List (List α)} (h : xs ≠ [])
    (ys : List (List α)) : sep.intercalate xs <+: sep.intercalate (xs ++ ys) := by
  induction xs with
  | nil => exact absurd rfl h
  | cons x rest ih =>
    cases rest with
    | nil =>
      cases ys with
      | nil => exact List.prefix_refl _
      | cons y more =>
        rw [List.singleton_append, List.intercalate_cons_cons, List.append_assoc]
        exact ⟨_, by simp [List.intercalate]; rfl⟩
    | cons next more =>
      rw [List.cons_append, List.cons_append, List.intercalate_cons_cons,
        List.intercalate_cons_cons, List.prefix_append_right_inj]
      exact ih (List.cons_ne_nil _ _)

theorem intercalate_split (xs : List Char) : ['/'].intercalate (split xs) = xs := by
  induction xs with
  | nil => rfl
  | cons c rest ih =>
    rw [split]
    split
    · next hslash =>
      rw [intercalate_cons_of_ne_nil _ _ (split_ne_nil rest), ih, hslash]
      rfl
    · cases h : split rest with
      | nil => exact absurd h (split_ne_nil rest)
      | cons part parts =>
        rw [h] at ih
        cases parts with
        | nil => simp_all [List.intercalate]
        | cons next more =>
          rw [List.intercalate_cons_cons] at ih ⊢
          exact congrArg (c :: ·) ih

theorem split_intercalate {parts : List (List Char)} (hne : parts ≠ [])
    (hslash : ∀ part ∈ parts, '/' ∉ part) : split (['/'].intercalate parts) = parts := by
  induction parts with
  | nil => exact absurd rfl hne
  | cons part rest ih =>
    rw [List.forall_mem_cons] at hslash
    cases rest with
    | nil =>
      rw [show ['/'].intercalate [part] = part by simp [List.intercalate]]
      exact split_of_notMem hslash.1
    | cons next more =>
      rw [List.intercalate_cons_cons, List.append_assoc]
      rw [show part ++ (['/'] ++ ['/'].intercalate (next :: more)) =
        part ++ '/' :: ['/'].intercalate (next :: more) from rfl, split_append,
        split_of_notMem hslash.1, ih (List.cons_ne_nil _ _) hslash.2]
      rfl

theorem notMem_slash_of_mem_split {part xs : List Char} (h : part ∈ split xs) : '/' ∉ part := by
  induction xs generalizing part with
  | nil =>
    rw [split, List.mem_singleton] at h
    rw [h]
    exact List.not_mem_nil
  | cons c rest ih =>
    rw [split] at h
    split at h
    · obtain rfl | h := List.mem_cons.mp h
      · exact List.not_mem_nil
      · exact ih h
    · next hslash =>
      cases hsplit : split rest with
      | nil => exact absurd hsplit (split_ne_nil rest)
      | cons first parts =>
        rw [hsplit] at h ih
        obtain rfl | h := List.mem_cons.mp h
        · rw [List.mem_cons, not_or]
          exact ⟨Ne.symm hslash, ih List.mem_cons_self⟩
        · exact ih (List.mem_cons_of_mem _ h)

theorem toList_text_ofSteps (steps : List String) :
    (ofSteps steps).text.toList = ['/'].intercalate (steps.map String.toList) := by
  rw [ofSteps, String.toList_intercalate]
  rfl

theorem ofSteps_steps (p : Path) : ofSteps p.steps = p := by
  have htext : (ofSteps p.steps).text = p.text := by
    rw [← String.toList_inj, toList_text_ofSteps, steps, List.map_map]
    simp [intercalate_split]
  exact congrArg Path.mk htext

theorem steps_ofSteps {steps : List String} (hne : steps ≠ [])
    (hslash : ∀ step ∈ steps, '/' ∉ step.toList) : (ofSteps steps).steps = steps := by
  rw [Path.steps, toList_text_ofSteps, split_intercalate, List.map_map]
  · simp
  · simpa using hne
  · intro part hpart
    obtain ⟨step, hstep, rfl⟩ := List.mem_map.mp hpart
    exact hslash step hstep

theorem notMem_slash_of_mem_steps {p : Path} {step : String} (h : step ∈ p.steps) :
    '/' ∉ step.toList := by
  obtain ⟨part, hpart, rfl⟩ := List.mem_map.mp h
  rw [String.toList_ofList]
  exact notMem_slash_of_mem_split hpart

/-- A path is absolute if its first step is empty and not its only one. -/
theorem isAbsolute_iff (p : Path) :
    p.isAbsolute = true ↔ ∃ second rest, p.steps = "" :: second :: rest := by
  rw [isAbsolute, decide_eq_true_eq, steps]
  cases hchars : p.text.toList with
  | nil => simp [split]
  | cons c rest =>
    rw [split]
    split
    · next hslash =>
      obtain ⟨second, parts, hparts⟩ := List.exists_cons_of_ne_nil (split_ne_nil rest)
      simp [hslash, hparts]
    · next hslash =>
      obtain ⟨second, parts, hparts⟩ := List.exists_cons_of_ne_nil (split_ne_nil rest)
      simp [hslash, hparts]

/-- The inner steps are the outer ones and one more, before which some may stand that do not
count. -/
def Next (outer inner : List String) : Prop :=
  ∃ fill part, (∀ step ∈ fill, counts step = false) ∧ inner = outer ++ fill ++ [part]

/-- A step in front of a chain. If it is not kept as a path of its own, it has to be one that does
not count. -/
theorem isChain_map_cons {levels : List (List String)} {part : String} {keep : Prop}
    [Decidable keep] (hkeep : ¬keep → counts part = false)
    (h : (levels ++ [[]]).IsChain fun inner outer => Next outer inner) :
    (levels.map (part :: ·) ++ (if keep then [[part]] else []) ++ [[]]).IsChain
      fun inner outer => Next outer inner := by
  have hlonger : (levels.map (part :: ·) ++ [[part]]).IsChain
      fun inner outer => Next outer inner := by
    rw [show levels.map (part :: ·) ++ [[part]] = (levels ++ [[]]).map (part :: ·) by simp,
      List.isChain_map]
    refine h.imp fun inner outer hnext => ?_
    obtain ⟨fill, last, hfill, rfl⟩ := hnext
    exact ⟨fill, last, hfill, rfl⟩
  split
  · rw [List.isChain_append]
    refine ⟨hlonger, .singleton _, ?_⟩
    intro x hx y hy
    rw [List.getLast?_concat] at hx
    cases hx
    cases hy
    exact ⟨[], part, List.forall_mem_nil _, rfl⟩
  · next hpart =>
    rw [List.append_nil]
    rw [List.isChain_append] at hlonger ⊢
    refine ⟨hlonger.1, .singleton _, ?_⟩
    intro x hx y hy
    cases hy
    obtain ⟨fill, last, hfill, rfl⟩ := hlonger.2.2 x hx [part] rfl
    refine ⟨part :: fill, last, ?_, rfl⟩
    rw [List.forall_mem_cons]
    exact ⟨hkeep hpart, hfill⟩

theorem isChain_fronts (rest : List String) :
    (fronts rest ++ [[]]).IsChain fun inner outer => Next outer inner := by
  induction rest with
  | nil => exact .singleton _
  | cons part rest ih => exact isChain_map_cons Bool.eq_false_iff.mpr ih

theorem prefix_of_mem_fronts {front rest : List String} (h : front ∈ fronts rest) :
    front ≠ [] ∧ front <+: rest := by
  induction rest generalizing front with
  | nil => cases h
  | cons part rest ih =>
    rw [fronts, List.mem_append] at h
    obtain h | h := h
    · obtain ⟨front, hfront, rfl⟩ := List.mem_map.mp h
      exact ⟨List.cons_ne_nil _ _, List.cons_prefix_cons.mpr ⟨rfl, (ih hfront).2⟩⟩
    · split at h
      · rw [List.mem_singleton] at h
        rw [h]
        exact ⟨List.cons_ne_nil _ _, List.cons_prefix_cons.mpr ⟨rfl, List.nil_prefix⟩⟩
      · cases h

/-- A path and the directories above it are given by beginnings of its steps, each of which goes on
from the one before. -/
theorem exists_levels (p : Path) : ∃ levels, p.ancestors = levels.map ofSteps ∧
    (∀ level ∈ levels, level ≠ [] ∧ level ≠ [""] ∧ level <+: p.steps) ∧
    (levels ++ [[]]).IsChain fun inner outer => Next outer inner := by
  obtain ⟨first, rest, hsteps⟩ := List.exists_cons_of_ne_nil (steps_ne_nil p)
  rw [ancestors, hsteps]
  refine ⟨(fronts rest).map (first :: ·) ++ if ¬first = "" then [[first]] else [], ?_, ?_, ?_⟩
  · rw [ite_not]
  · intro level hlevel
    obtain hlevel | hlevel := List.mem_append.mp hlevel
    · obtain ⟨front, hfront, rfl⟩ := List.mem_map.mp hlevel
      obtain ⟨hne, hprefix⟩ := prefix_of_mem_fronts hfront
      refine ⟨List.cons_ne_nil _ _, ?_, List.cons_prefix_cons.mpr ⟨rfl, hprefix⟩⟩
      intro heq
      exact hne (List.cons_eq_cons.mp heq).2
    · split at hlevel
      · next hne =>
        rw [List.mem_singleton] at hlevel
        rw [hlevel]
        refine ⟨List.cons_ne_nil _ _, ?_, List.cons_prefix_cons.mpr ⟨rfl, List.nil_prefix⟩⟩
        intro heq
        exact hne (List.cons_eq_cons.mp heq).1
      · cases hlevel
  · exact isChain_map_cons (fun h => by simp [not_not.mp h, counts_empty]) (isChain_fronts rest)

/-- The directory lies on the way of the path, and is written as in it. -/
structure Begins (c p : Path) : Prop where
  text_ne : c.text ≠ ""
  text_prefix : c.text.toList <+: p.text.toList
  steps_prefix : c.steps <+: p.steps
  isAbsolute_eq : c.isAbsolute = p.isAbsolute

theorem begins_ofSteps {p : Path} {level : List String} (hne : level ≠ []) (hne' : level ≠ [""])
    (h : level <+: p.steps) : (ofSteps level).steps = level ∧ (ofSteps level).Begins p := by
  obtain ⟨rest, hrest⟩ := h
  have hsteps : (ofSteps level).steps = level := by
    refine steps_ofSteps hne fun step hstep => notMem_slash_of_mem_steps (p := p) ?_
    rw [← hrest]
    exact List.mem_append_left _ hstep
  have htext : (ofSteps level).text.toList <+: p.text.toList := by
    rw [← ofSteps_steps p, toList_text_ofSteps, toList_text_ofSteps, ← hrest, List.map_append]
    exact intercalate_prefix _ (by simpa using hne) _
  refine ⟨hsteps, ?_, htext, ⟨rest, hsteps.symm ▸ hrest⟩, ?_⟩
  · intro hempty
    have hone : (ofSteps level).steps = [""] := by rw [steps, hempty]; rfl
    exact hne' (hsteps.symm.trans hone)
  · obtain ⟨first, more, hlevel⟩ := List.exists_cons_of_ne_nil hne
    rw [Bool.eq_iff_iff, isAbsolute_iff, isAbsolute_iff, hsteps, ← hrest, hlevel]
    cases more with
    | cons second more => simp
    | nil =>
      have hfirst : first ≠ "" := by
        rintro rfl
        exact hne' hlevel
      simp [hfirst]

theorem Begins.utf8ByteSize_le {c p : Path} (h : c.Begins p) :
    c.text.utf8ByteSize ≤ p.text.utf8ByteSize := by
  obtain ⟨rest, hrest⟩ := h.text_prefix
  have htext : p.text = c.text ++ String.ofList rest := by
    rw [← String.toList_inj, String.toList_append, String.toList_ofList, hrest]
  rw [htext, String.utf8ByteSize_append]
  exact Nat.le_add_right _ _

theorem begins_of_mem_ancestors {p c : Path} (h : c ∈ p.ancestors) : c.Begins p := by
  obtain ⟨levels, hlevels, hprefix, -⟩ := exists_levels p
  rw [hlevels] at h
  obtain ⟨level, hlevel, rfl⟩ := List.mem_map.mp h
  obtain ⟨hne, hne', hlevel⟩ := hprefix level hlevel
  exact (begins_ofSteps hne hne' hlevel).2

/-- The directories above a path lie in each other, and the last in none of them. -/
theorem isChain_ancestors (p : Path) :
    (p.ancestors.map steps ++ [[]]).IsChain fun inner outer => Next outer inner := by
  obtain ⟨levels, hlevels, hprefix, hchain⟩ := exists_levels p
  have hmap : p.ancestors.map steps = levels := by
    rw [hlevels, List.map_map]
    refine (List.map_congr_left fun level hlevel => ?_).trans (List.map_id levels)
    obtain ⟨hne, hne', hlevel⟩ := hprefix level hlevel
    exact (begins_ofSteps hne hne' hlevel).1
  rwa [hmap]

theorem isChain_above (p : Path) :
    (p.above.map steps ++ [[]]).IsChain fun inner outer => Next outer inner := by
  have hchain := isChain_ancestors p
  rw [above]
  cases hancestors : p.ancestors with
  | nil => exact .singleton _
  | cons q outer =>
    rw [hancestors, List.map_cons, List.cons_append] at hchain
    exact hchain.tail

theorem head?_fronts {part : String} (hpart : counts part = true) (front : List String) :
    (fronts (front ++ [part])).head? = some (front ++ [part]) := by
  induction front with
  | nil => simp [fronts, hpart]
  | cons first rest ih =>
    rw [List.cons_append, fronts, List.head?_append, List.head?_map, ih]
    rfl

/-- A path whose last step counts is the innermost of those that it goes through. -/
theorem ancestors_eq_cons {p : Path} {front : List String} {part : String}
    (hsteps : p.steps = front ++ [part]) (hpart : counts part = true) :
    p.ancestors = p :: p.above := by
  have hself : ofSteps (front ++ [part]) = p := by rw [← hsteps, ofSteps_steps]
  have hhead : p.ancestors.head? = some p := by
    rw [ancestors, hsteps]
    cases front with
    | nil =>
      have hne : part ≠ "" := by
        rintro rfl
        cases hpart
      rw [List.nil_append] at hself
      simp [fronts, hne, hself]
    | cons first rest =>
      rw [List.cons_append] at hself
      simp [head?_fronts hpart, hself]
  obtain ⟨outer, houter⟩ := List.head?_eq_some_iff.mp hhead
  rw [above, houter, List.tail_cons]

/-- A path whose last step counts goes on from the directory above it. -/
theorem next_above {p : Path} {front : List String} {part : String}
    (hsteps : p.steps = front ++ [part]) (hpart : counts part = true) :
    Next ((p.above.map steps).headD []) p.steps := by
  have hchain := isChain_ancestors p
  rw [ancestors_eq_cons hsteps hpart, List.map_cons, List.cons_append, List.isChain_cons] at hchain
  refine hchain.1 _ ?_
  cases p.above <;> simp

/-- The directories above a path whose last step counts lie on the way of the steps before. -/
theorem prefix_of_mem_above {p q : Path} {front : List String} {part : String}
    (hsteps : p.steps = front ++ [part]) (hpart : counts part = true) (h : q ∈ p.above) :
    q.steps <+: front := by
  -- a directory has fewer steps than what lies in it, however deep
  let Within (inner outer : List String) : Prop :=
    outer <+: inner ∧ outer.length < inner.length
  have htrans : ∀ {a b c}, Within a b → Within b c → Within a c := fun hab hbc =>
    ⟨hbc.1.trans hab.1, hbc.2.trans hab.2⟩
  have hchain := (isChain_ancestors p).imp (S := Within) fun inner outer hnext => by
    obtain ⟨fill, last, -, rfl⟩ := hnext
    refine ⟨⟨fill ++ [last], (List.append_assoc _ _ _).symm⟩, ?_⟩
    simp only [List.length_append, List.length_singleton]
    omega
  have : Trans Within Within Within := ⟨htrans⟩
  rw [List.isChain_iff_pairwise, ancestors_eq_cons hsteps hpart, List.map_cons, List.cons_append,
    List.pairwise_cons] at hchain
  obtain ⟨hbegins, hlength⟩ :=
    hchain.1 q.steps (List.mem_append_left _ (List.mem_map_of_mem h))
  rw [hsteps] at hbegins hlength
  refine (List.prefix_concat_iff.mp hbegins).resolve_left ?_
  rintro heq
  rw [heq] at hlength
  exact Nat.lt_irrefl _ hlength

end ToolScaffold.Path
