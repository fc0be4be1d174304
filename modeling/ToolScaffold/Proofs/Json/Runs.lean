import Mathlib.Data.List.DropRight
import ToolScaffold.Proofs.Json.Scalar

/-!
# Runs of readers

What a run that gets through is made of: the steps of a sequence (`run_bind_eq_ok_iff`), the items
up to a closing bracket (`run_items_eq_ok_iff`), and a value by its first character
(`run_value_eq_ok_iff`).
-/

namespace ToolScaffold.Json

namespace Brackets

variable {σ : Type}

/-- What follows an item, up to the closing bracket. -/
inductive Rest (b : Brackets) (item : σ → Reader σ) : σ → List Char → σ → List Char → Prop
  | close {acc : σ} {s rest : List Char} (hs : s.dropWhile Reader.isSpace = b.close :: rest) :
    Rest b item acc s acc rest
  | comma {acc acc' a : σ} {s rest rest' r : List Char}
    (hs : s.dropWhile Reader.isSpace = ',' :: rest) (hclose : ',' ≠ b.close)
    (hitem : (do let _ ← Reader.next; b.afterComma; item acc : Reader σ).run rest =
      .ok (acc', rest'))
    (hmore : Rest b item acc' rest' a r) : Rest b item acc s a r

/-- The items between brackets, the opening one being read. -/
inductive Run (b : Brackets) (item : σ → Reader σ) (acc : σ) : List Char → σ → List Char → Prop
  | empty {s rest : List Char} (hs : s.dropWhile Reader.isSpace = b.close :: rest) :
    Run b item acc s acc rest
  | first {acc' a : σ} {c : Char} {s tail rest' r : List Char}
    (hs : s.dropWhile Reader.isSpace = c :: tail) (hclose : c ≠ b.close)
    (hitem : (do b.beforeFirst; item acc : Reader σ).run (c :: tail) = .ok (acc', rest'))
    (hmore : Rest b item acc' rest' a r) : Run b item acc s a r

end Brackets

namespace Reader

variable {α β σ : Type}

theorem run_bind_eq_ok_iff {x : Reader α} {f : α → Reader β} {s r : List Char} {b : β} :
    (x >>= f).run s = .ok (b, r) ↔ ∃ a s', x.run s = .ok (a, s') ∧ (f a).run s' = .ok (b, r) := by
  rw [run_bind]
  cases x.run s with
  | error e => exact iff_of_false nofun nofun
  | ok p =>
    constructor
    · intro h
      exact ⟨p.1, p.2, rfl, h⟩
    · rintro ⟨a, s', hx, hf⟩
      cases hx
      exact hf

theorem run_next_eq (s : List Char) :
    next.run s = .ok ((s.dropWhile isSpace).head?, s.dropWhile isSpace) := rfl

theorem run_ofExcept_eq_ok_iff {x : Except Cause α} {s r : List Char} {a : α} :
    (ofExcept x).run s = .ok (a, r) ↔ x = .ok a ∧ r = s := by
  cases x with
  | error e => exact iff_of_false nofun nofun
  | ok b =>
    constructor
    · intro h
      cases h
      exact ⟨rfl, rfl⟩
    · rintro ⟨h, rfl⟩
      cases h
      rfl

/-! ## Items between brackets -/

section Items

variable {b : Brackets} {item : σ → Reader σ} {acc a : σ} {s r : List Char}

theorem runLoop_eq_ok_iff : b.runLoop item acc s = .ok (a, r) ↔ b.Rest item acc s a r := by
  constructor
  · intro h
    fun_induction Brackets.runLoop b item acc s with
    | case1 => cases h
    | case2 acc s rest hs =>
      cases h
      exact .close hs
    | case3 acc s rest acc' rest' hstep hs hclose ih => exact .comma hs hclose hstep (ih h)
    | case4 => cases h
    | case5 => cases h
  · intro h
    induction h with
    | @close acc s rest hs =>
      rw [Brackets.runLoop]
      split
      · next hleft => cases hs.symm.trans hleft
      · next c left hleft =>
        cases hs.symm.trans hleft
        rw [if_pos rfl]
    | @comma acc acc' a s rest rest' r hs hclose hitem _ ih =>
      rw [Brackets.runLoop]
      split
      · next hleft => cases hs.symm.trans hleft
      · next c left hleft =>
        cases hs.symm.trans hleft
        rw [if_neg hclose, if_pos rfl]
        split
        · next acc'' rest'' hstep =>
          cases hitem.symm.trans hstep
          exact ih
        · next e hstep => cases hitem.symm.trans hstep

theorem run_items_eq_ok_iff : (b.items item acc).run s = .ok (a, r) ↔ b.Run item acc s a r := by
  rw [Brackets.items, run_bind_of_ok (run_next_eq s)]
  cases hs : s.dropWhile isSpace with
  | nil =>
    refine iff_of_false nofun ?_
    rintro (h | h)
    · cases hs.symm.trans h
    · cases hs.symm.trans h
  | cons c tail =>
    rw [List.head?_cons]
    dsimp only
    by_cases hclose : c = b.close
    · rw [if_pos hclose]
      constructor
      · intro h
        cases h
        exact .empty (hclose ▸ hs)
      · rintro (h | ⟨h, hne, -, -⟩)
        · cases hs.symm.trans h
          rfl
        · cases hs.symm.trans h
          exact absurd hclose hne
    · rw [if_neg hclose]
      constructor
      · intro h
        obtain ⟨_, s', hfirst, h⟩ := run_bind_eq_ok_iff.1 h
        obtain ⟨acc', rest', hitem, h⟩ := run_bind_eq_ok_iff.1 h
        refine .first hs hclose ?_ (runLoop_eq_ok_iff.1 h)
        rw [run_bind_of_ok hfirst, hitem]
      · rintro (h | ⟨h, -, hitem, hmore⟩)
        · cases hs.symm.trans h
          exact absurd rfl hclose
        · cases hs.symm.trans h
          obtain ⟨_, s', hfirst, hitem⟩ := run_bind_eq_ok_iff.1 hitem
          rw [run_bind_of_ok hfirst, run_bind_of_ok hitem]
          exact runLoop_eq_ok_iff.2 hmore

end Items

/-! ## Values -/

/-- One more item of a list that is kept. -/
def listItem (item : Reader Json) (acc : Array Json) : Reader (Array Json) := do
  return acc.push (← item)

/-- One more field of an object that is kept. -/
def objectItem (item : Reader Json) (fields : Fields) : Reader Fields := do
  let name ← key
  return Entries.insert name (← item) fields

/-- How a value is read from its first character on. -/
inductive ValueRun : Nat → List Char → Json → List Char → Prop
  | list {levels : Nat} {s r : List Char} {items : Array Json}
    (h : listBrackets.Run (listItem (value levels)) #[] s items r) :
    ValueRun (levels + 1) ('[' :: s) (.arr items.toList) r
  | object {levels : Nat} {s r : List Char} {fields : Fields}
    (h : objectBrackets.Run (objectItem (value levels)) [] s fields r) :
    ValueRun (levels + 1) ('\x7b' :: s) (.obj fields) r
  | scalar {levels : Nat} {c : Char} {s r : List Char} {v : Json} (hlist : c ≠ '[')
    (hobject : c ≠ '\x7b') (h : (scalar c).run (c :: s) = .ok (v, r)) :
    ValueRun levels (c :: s) v r

/-- Reads a value that is seen at its first character. -/
def valueAt : (levels : Nat) → (first : Char) → Reader Json
  | 0, first => if first = '[' ∨ first = '\x7b' then failAtNext .tooDeep else scalar first
  | levels + 1, first =>
    if first = '[' then list (value levels)
    else if first = '\x7b' then object (value levels)
    else scalar first

theorem run_value_cons {c : Char} {s tail : List Char} (hs : s.dropWhile isSpace = c :: tail)
    (levels : Nat) : (value levels).run s = (valueAt levels c).run (c :: tail) := by
  cases levels <;> rw [value, run_bind_of_ok (run_next_eq s), hs] <;> rfl

theorem run_value_nil {s : List Char} (hs : s.dropWhile isSpace = []) (levels : Nat) :
    (value levels).run s = .error ⟨.endInValue, [], 1⟩ := by
  cases levels <;> rw [value, run_bind_of_ok (run_next_eq s), hs] <;> rfl

theorem run_list_eq_ok_iff {item : Reader Json} {s r : List Char} {v : Json} :
    (list item).run ('[' :: s) = .ok (v, r) ↔
      ∃ items, listBrackets.Run (listItem item) #[] s items r ∧ v = .arr items.toList := by
  rw [list, run_bind_of_ok (run_advance _), run_bind_eq_ok_iff]
  constructor
  · rintro ⟨items, r', hitems, h⟩
    cases h
    exact ⟨items, run_items_eq_ok_iff.1 hitems, rfl⟩
  · rintro ⟨items, hitems, rfl⟩
    exact ⟨items, r, run_items_eq_ok_iff.2 hitems, rfl⟩

theorem run_object_eq_ok_iff {item : Reader Json} {s r : List Char} {v : Json} :
    (object item).run ('\x7b' :: s) = .ok (v, r) ↔
      ∃ fields, objectBrackets.Run (objectItem item) [] s fields r ∧ v = .obj fields := by
  rw [object, run_bind_of_ok (run_advance _), run_bind_eq_ok_iff]
  constructor
  · rintro ⟨fields, r', hfields, h⟩
    cases h
    exact ⟨fields, run_items_eq_ok_iff.1 hfields, rfl⟩
  · rintro ⟨fields, hfields, rfl⟩
    exact ⟨fields, r, run_items_eq_ok_iff.2 hfields, rfl⟩

/-- **A value is read** as its first character says. -/
theorem run_value_eq_ok_iff {levels : Nat} {s r : List Char} {v : Json} :
    (value levels).run s = .ok (v, r) ↔ ValueRun levels (s.dropWhile isSpace) v r := by
  cases hs : s.dropWhile isSpace with
  | nil =>
    rw [run_value_nil hs]
    exact iff_of_false nofun nofun
  | cons c tail =>
    rw [run_value_cons hs]
    constructor
    · intro h
      cases levels with
      | zero =>
        rw [valueAt] at h
        split at h
        · cases h
        · next hopen => exact .scalar (fun heq => hopen (.inl heq)) (fun heq => hopen (.inr heq)) h
      | succ levels =>
        rw [valueAt] at h
        split_ifs at h with hlist hobject
        · subst hlist
          obtain ⟨items, hitems, rfl⟩ := run_list_eq_ok_iff.1 h
          exact .list hitems
        · subst hobject
          obtain ⟨fields, hfields, rfl⟩ := run_object_eq_ok_iff.1 h
          exact .object hfields
        · exact .scalar hlist hobject h
    · intro h
      cases h with
      | list hitems =>
        rw [valueAt, if_pos rfl]
        exact run_list_eq_ok_iff.2 ⟨_, hitems, rfl⟩
      | object hfields =>
        rw [valueAt, if_neg (by decide), if_pos rfl]
        exact run_object_eq_ok_iff.2 ⟨_, hfields, rfl⟩
      | scalar hlist hobject h =>
        cases levels with
        | zero => rwa [valueAt, if_neg (not_or.2 ⟨hlist, hobject⟩)]
        | succ levels => rwa [valueAt, if_neg hlist, if_neg hobject]

/-- Blanks in front of a value do not matter. -/
theorem run_value_dropWhile (levels : Nat) (s : List Char) :
    (value levels).run (s.dropWhile isSpace) = (value levels).run s := by
  cases hs : s.dropWhile isSpace with
  | nil => rw [run_value_nil hs, run_value_nil List.dropWhile_nil]
  | cons c tail =>
    have htail : (c :: tail).dropWhile isSpace = c :: tail := by
      rw [← hs, List.dropWhile_idempotent]
    rw [run_value_cons hs, run_value_cons htail]

/-- A whole text is read if nothing but blanks is left. -/
theorem runWhole_eq_ok_iff {x : Reader α} {text : String} {a : α} : x.runWhole text = .ok a ↔
    ∃ r, x.run text.toList = .ok (a, r) ∧ r.dropWhile isSpace = [] := by
  unfold runWhole
  dsimp only
  rw [run_bind]
  cases x.run text.toList with
  | error e => exact iff_of_false nofun nofun
  | ok p =>
    obtain ⟨b, r⟩ := p
    dsimp only
    rw [run_bind_of_ok (run_next_eq r)]
    cases hr : r.dropWhile isSpace with
    | nil =>
      constructor
      · intro h
        cases h
        exact ⟨r, rfl, hr⟩
      · rintro ⟨r', h, -⟩
        cases h
        rfl
    | cons c rest =>
      refine iff_of_false nofun ?_
      rintro ⟨r', h, hr'⟩
      cases h
      cases hr.symm.trans hr'

end Reader

end ToolScaffold.Json
