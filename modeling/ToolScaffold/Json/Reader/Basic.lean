import ToolScaffold.Json.Failure

/-!
# Readers

A reader takes a value off the front of a text. It never returns more text than it was given
(`shrinks`), which is what ends the loops over items. Readers form a monad; the first failure ends
the reading.
-/

namespace ToolScaffold.Json

/-- Takes a value off the front of a text. -/
structure Reader (α : Type) where
  run : List Char → Except Failure (α × List Char)
  shrinks : ∀ {s a r}, run s = .ok (a, r) → r.length ≤ s.length

namespace Reader

variable {α β : Type}

protected def pure (a : α) : Reader α where
  run s := .ok (a, s)
  shrinks h := by cases h; exact Nat.le_refl _

protected def bind (x : Reader α) (f : α → Reader β) : Reader β where
  run s :=
    match x.run s with
    | .ok (a, r) => (f a).run r
    | .error e => .error e
  shrinks {s b r} h := by
    cases hx : x.run s with
    | error e => simp [hx] at h
    | ok p => simp only [hx] at h; exact Nat.le_trans ((f p.1).shrinks h) (x.shrinks hx)

instance : Monad Reader where
  pure := Reader.pure
  bind := Reader.bind

@[simp] theorem run_pure (a : α) (s : List Char) : (pure a : Reader α).run s = .ok (a, s) := rfl

theorem run_bind (x : Reader α) (f : α → Reader β) (s : List Char) :
    (x >>= f).run s = match x.run s with
      | .ok (a, r) => (f a).run r
      | .error e => .error e := rfl

def fail (cause : Cause) : Reader α where
  run s := .error ⟨cause, s, 0⟩
  shrinks h := by cases h

/-- Fails at the first byte of the text. -/
def failAtNext (cause : Cause) : Reader α where
  run s := .error ⟨cause, s, 1⟩
  shrinks h := by cases h

def peek : Reader (Option Char) where
  run s := .ok (s.head?, s)
  shrinks h := by cases h; exact Nat.le_refl _

def advance : Reader Unit where
  run s := .ok ((), s.drop 1)
  shrinks h := by cases h; simp

def takeWhile (p : Char → Bool) : Reader (List Char) where
  run s := .ok (s.takeWhile p, s.dropWhile p)
  shrinks h := by cases h; exact (List.dropWhile_sublist p).length_le

/-- Turns a cause into a failure at the front of the text. -/
def ofExcept (x : Except Cause α) : Reader α :=
  match x with
  | .ok a => pure a
  | .error cause => fail cause

def isSpace (c : Char) : Bool := c = ' ' || c = '\n' || c = '\t' || c = '\r'

/-- Skips blanks, then shows the first character. -/
def next : Reader (Option Char) := do
  let _ ← takeWhile isSpace
  peek

end Reader

/-! ## Items between brackets -/

/-- How the items of a list or an object are told apart, and what is wrong when they are not. -/
structure Brackets where
  close : Char
  /-- The text ends inside of the brackets. -/
  ended : Cause
  /-- Neither a comma nor the closing bracket follows an item. -/
  unseparated : Cause
  /-- A check made before the first item. -/
  beforeFirst : Reader Unit
  /-- A check made after a comma. -/
  afterComma : Reader Unit

namespace Brackets

variable {σ : Type}

/-- Reads what follows an item: more items after commas, up to the closing bracket. -/
def runLoop (b : Brackets) (item : σ → Reader σ) (acc : σ) (s : List Char) :
    Except Failure (σ × List Char) :=
  match _left : s.dropWhile Reader.isSpace with
  | [] => .error ⟨b.ended, [], 1⟩
  | c :: rest =>
    if c = b.close then .ok (acc, rest)
    else if c = ',' then
      match _step : (do let _ ← Reader.next; b.afterComma; item acc : Reader σ).run rest with
      | .ok (acc', rest') => runLoop b item acc' rest'
      | .error e => .error e
    else .error ⟨b.unseparated, c :: rest, 1⟩
termination_by s.length
decreasing_by
  have h1 := Reader.shrinks _ _step
  have h2 := (List.dropWhile_sublist Reader.isSpace (l := s)).length_le
  rw [_left, List.length_cons] at h2
  omega

theorem runLoop_shrinks (b : Brackets) (item : σ → Reader σ) (acc : σ) (s : List Char) {a r}
    (h : b.runLoop item acc s = .ok (a, r)) : r.length ≤ s.length := by
  fun_induction runLoop b item acc s with
  | case1 => simp at h
  | case2 acc s rest hs =>
    have h2 := (List.dropWhile_sublist Reader.isSpace (l := s)).length_le
    rw [hs, List.length_cons] at h2
    cases h
    omega
  | case3 acc s rest acc' rest' hr hs hc ih =>
    have h1 := Reader.shrinks _ hr
    have h2 := (List.dropWhile_sublist Reader.isSpace (l := s)).length_le
    rw [hs, List.length_cons] at h2
    have := ih h
    omega
  | case4 => simp at h
  | case5 => simp at h

/-- Reads items up to the closing bracket, the opening one being read. Each item adds to what the
items before it made. -/
def items (b : Brackets) (item : σ → Reader σ) (acc : σ) : Reader σ := do
  match ← Reader.next with
  | none => Reader.failAtNext b.ended
  | some c =>
    if c = b.close then
      Reader.advance
      return acc
    else
      b.beforeFirst
      let acc ← item acc
      ⟨b.runLoop item acc, b.runLoop_shrinks item acc _⟩

end Brackets

end ToolScaffold.Json
