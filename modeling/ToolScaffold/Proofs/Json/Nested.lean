import Mathlib.Tactic.SplitIfs
import ToolScaffold.Json.Reader
import ToolScaffold.Proofs.Entries

/-!
# What a document can be

`Reader.Gives P x`: all that the reader `x` ever gives has the property `P`. The steps of readers
keep such properties (`Gives.bind`), and so do the loops over items (`Gives.items`).

`value_gives`: a value nests no deeper than the allowance that it is read with, and no object in it
has a key twice (`Nested`).
-/

namespace ToolScaffold.Json

/-- The value nests at most so many levels deep, and no object in it has a key twice. -/
inductive Nested : Nat → Json → Prop
  | null {levels : Nat} : Nested levels .null
  | bool {levels : Nat} (b : Bool) : Nested levels (.bool b)
  | num {levels : Nat} (n : Number) : Nested levels (.num n)
  | str {levels : Nat} (s : String) : Nested levels (.str s)
  | arr {levels : Nat} {items : List Json} (hitems : ∀ v ∈ items, Nested levels v) :
    Nested (levels + 1) (.arr items)
  | obj {levels : Nat} {fields : Fields} (hdistinct : fields.Distinct)
    (hfields : ∀ field ∈ fields, Nested levels field.2) : Nested (levels + 1) (.obj fields)

theorem nested_arr_iff {levels : Nat} {items : List Json} :
    Nested (levels + 1) (.arr items) ↔ ∀ v ∈ items, Nested levels v := by
  constructor
  · rintro (_ | _ | _ | _ | hitems)
    exact hitems
  · exact .arr

theorem nested_obj_iff {levels : Nat} {fields : Fields} :
    Nested (levels + 1) (.obj fields) ↔
      fields.Distinct ∧ ∀ field ∈ fields, Nested levels field.2 := by
  constructor
  · rintro (_ | _ | _ | _ | _ | ⟨hdistinct, hfields⟩)
    exact ⟨hdistinct, hfields⟩
  · rintro ⟨hdistinct, hfields⟩
    exact .obj hdistinct hfields

/-- No object in the value has a key twice. -/
inductive DistinctKeys : Json → Prop
  | null : DistinctKeys .null
  | bool (b : Bool) : DistinctKeys (.bool b)
  | num (n : Number) : DistinctKeys (.num n)
  | str (s : String) : DistinctKeys (.str s)
  | arr {items : List Json} (hitems : ∀ v ∈ items, DistinctKeys v) : DistinctKeys (.arr items)
  | obj {fields : Fields} (hdistinct : fields.Distinct)
    (hfields : ∀ field ∈ fields, DistinctKeys field.2) : DistinctKeys (.obj fields)

theorem distinctKeys_obj_iff {fields : Fields} :
    DistinctKeys (.obj fields) ↔ fields.Distinct ∧ ∀ field ∈ fields, DistinctKeys field.2 := by
  constructor
  · rintro (_ | _ | _ | _ | _ | ⟨hdistinct, hfields⟩)
    exact ⟨hdistinct, hfields⟩
  · rintro ⟨hdistinct, hfields⟩
    exact .obj hdistinct hfields

theorem Nested.distinctKeys {levels : Nat} {v : Json} (h : Nested levels v) : DistinctKeys v := by
  induction h with
  | null => exact .null
  | bool b => exact .bool b
  | num n => exact .num n
  | str s => exact .str s
  | arr _ ih => exact .arr ih
  | obj hdistinct _ ih => exact .obj hdistinct ih

namespace Reader

/-- All that the reader gives has the property. -/
def Gives {α : Type} (P : α → Prop) (x : Reader α) : Prop :=
  ∀ s a r, x.run s = .ok (a, r) → P a

namespace Gives

variable {α β σ : Type} {P : α → Prop} {Q : β → Prop}

theorem pure {a : α} (h : P a) : Gives P (Pure.pure a) := by
  intro s b r hrun
  cases hrun
  exact h

theorem failAtNext (cause : Cause) : Gives P (Reader.failAtNext cause) := by
  intro s a r hrun
  cases hrun

/-- What the second step gives from what the first one gave. -/
theorem bind {x : Reader α} {f : α → Reader β} (hx : Gives P x) (hf : ∀ a, P a → Gives Q (f a)) :
    Gives Q (x >>= f) := by
  intro s b r hrun
  rw [run_bind] at hrun
  split at hrun
  · next a s' hfirst => exact hf a (hx s a s' hfirst) s' b r hrun
  · cases hrun

theorem trivial (x : Reader α) : Gives (fun _ => True) x := fun _ _ _ _ => True.intro

/-- What the second step gives whatever the first one gave. -/
theorem after {x : Reader α} {f : α → Reader β} (hf : ∀ a, Gives Q (f a)) : Gives Q (x >>= f) :=
  (trivial x).bind fun a _ => hf a

section Items

variable {b : Brackets} {item : σ → Reader σ} {I : σ → Prop}
  (hitem : ∀ acc, I acc → Gives I (item acc))

include hitem in
theorem runLoop {acc : σ} (hacc : I acc) {s : List Char} {a : σ} {r : List Char}
    (hrun : b.runLoop item acc s = .ok (a, r)) : I a := by
  fun_induction Brackets.runLoop b item acc s with
  | case1 => cases hrun
  | case2 => cases hrun; exact hacc
  | case3 acc s rest acc' rest' hstep hleft hclose ih =>
    exact ih ((after fun _ => after fun _ => hitem acc hacc) rest acc' rest' hstep) hrun
  | case4 => cases hrun
  | case5 => cases hrun

include hitem in
theorem items {acc : σ} (hacc : I acc) : Gives I (b.items item acc) := by
  unfold Brackets.items
  refine after fun c => ?_
  cases c with
  | none => exact failAtNext _
  | some c =>
    dsimp only
    split
    · exact after fun _ => pure hacc
    · refine after fun _ => (hitem acc hacc).bind fun acc' hacc' => ?_
      intro s a r hrun
      exact runLoop hitem hacc' hrun

end Items

end Gives

theorem Gives.runWhole {α : Type} {P : α → Prop} {x : Reader α} (hx : Gives P x) {text : String}
    {a : α} (h : x.runWhole text = .ok a) : P a := by
  unfold Reader.runWhole at h
  dsimp only at h
  split at h
  · next a' r hrun =>
    cases h
    refine (hx.bind fun a ha => after fun c => ?_) _ _ _ hrun
    cases c with
    | none => exact pure ha
    | some _ => exact failAtNext _
  · cases h

/-! ## Values -/

/-- The value is no list and no object. -/
def IsScalar : Json → Prop
  | .arr _ => False
  | .obj _ => False
  | _ => True

theorem IsScalar.nested {v : Json} (h : IsScalar v) (levels : Nat) : Nested levels v := by
  cases v with
  | null => exact .null
  | bool b => exact .bool b
  | num n => exact .num n
  | str s => exact .str s
  | arr items => exact h.elim
  | obj fields => exact h.elim

theorem scalar_gives (c : Char) : Gives IsScalar (scalar c) := by
  unfold scalar
  split_ifs
  iterate 3 exact .after fun _ => .after fun _ => .pure True.intro
  · exact .after fun _ => .after fun _ => .pure True.intro
  · exact .after fun _ => .pure True.intro
  · exact .after fun _ => .after fun _ => .pure True.intro
  · exact .failAtNext _

theorem list_gives {levels : Nat} {item : Reader Json} (hitem : Gives (Nested levels) item) :
    Gives (Nested (levels + 1)) (list item) := by
  have hloop : Gives (fun acc : Array Json => ∀ v ∈ acc.toList, Nested levels v)
      (listBrackets.items (fun acc => do return acc.push (← item)) #[]) := by
    refine .items (fun acc hacc => hitem.bind fun v hv => .pure fun w hw => ?_) fun v hv => ?_
    · rw [Array.toList_push, List.mem_append, List.mem_singleton] at hw
      rcases hw with hold | rfl
      · exact hacc w hold
      · exact hv
    · cases hv
  exact .after fun _ => hloop.bind fun items hitems => .pure (.arr hitems)

theorem object_gives {levels : Nat} {item : Reader Json} (hitem : Gives (Nested levels) item) :
    Gives (Nested (levels + 1)) (object item) := by
  have hloop : Gives
      (fun fields : Fields => fields.Distinct ∧ ∀ field ∈ fields, Nested levels field.2)
      (objectBrackets.items (fun fields => do
        let name ← key
        return Entries.insert name (← item) fields) []) := by
    refine .items (fun fields hfields => .after fun name => hitem.bind fun v hv => .pure ?_)
      ⟨List.nodup_nil, fun field hfield => by cases hfield⟩
    exact ⟨hfields.1.insert, Entries.forall_insert hv hfields.2⟩
  exact .after fun _ => hloop.bind fun fields hfields => .pure (.obj hfields.1 hfields.2)

/-- **What is read nests no deeper than allowed**, and has no key twice. -/
theorem value_gives (levels : Nat) : Gives (Nested levels) (value levels) := by
  induction levels with
  | zero =>
    refine .after fun c => ?_
    cases c with
    | none => exact .failAtNext _
    | some c =>
      dsimp only
      split
      · exact .failAtNext _
      · exact fun s v r hrun => (scalar_gives c s v r hrun).nested 0
  | succ levels ih =>
    refine .after fun c => ?_
    cases c with
    | none => exact .failAtNext _
    | some c =>
      dsimp only
      split
      · exact list_gives ih
      · split
        · exact object_gives ih
        · exact fun s v r hrun => (scalar_gives c s v r hrun).nested (levels + 1)

end Reader

theorem read_nested {text : String} {v : Json} (h : read text = .ok v) : Nested maxDepth v :=
  (Reader.value_gives maxDepth).runWhole h

end ToolScaffold.Json
