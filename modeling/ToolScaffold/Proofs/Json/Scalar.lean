import Mathlib.Tactic.SplitIfs
import ToolScaffold.Json.Printer
import ToolScaffold.Json.Reader

/-!
# Reading back strings and numbers

A string is read back character by character (`runString_escape`), and an integer of 64 bits digit
by digit (`run_number_natChars`), the latter only where the text after it does not go on with the
number (`Ends`). Minus zero is read as a double and is written with a fraction, so it is read back
by itself (`run_number_minusZero`). `Number.Kept`: the literal of a number is read back; of other
doubles that is not said, as the reader does not round all of them correctly.
-/

namespace ToolScaffold

namespace Json

/-- What the literal `-0` is read as. -/
def minusZero : Float := -(0 : UInt64).toFloat

end Json

/-- The number is an integer of 64 bits, with a sign or without; minus zero, a double, is one. -/
def Number.Integral : Number → Prop
  | .int n => -0x8000000000000000 ≤ n ∧ n < 0x10000000000000000
  | .float x => x = Json.minusZero

namespace Json.Reader

variable {α β : Type}

@[simp] theorem run_peek (s : List Char) : peek.run s = .ok (s.head?, s) := rfl

@[simp] theorem run_advance (s : List Char) : advance.run s = .ok ((), s.drop 1) := rfl

@[simp] theorem run_takeWhile (p : Char → Bool) (s : List Char) :
    (takeWhile p).run s = .ok (s.takeWhile p, s.dropWhile p) := rfl

/-- The second step goes on where the first one stopped. -/
theorem run_bind_of_ok {x : Reader α} {f : α → Reader β} {s r : List Char} {a : α}
    (h : x.run s = .ok (a, r)) : (x >>= f).run s = (f a).run r := by
  rw [run_bind, h]

/-! ## Strings -/

theorem runString_plain {number : Reader Char} {c : Char} (hquote : c ≠ '"') (hslash : c ≠ '\\')
    (hcontrol : 0x20 ≤ c.toNat) {s cs r : List Char} (h : runString number s = .ok (cs, r)) :
    runString number (c :: s) = .ok (c :: cs, r) := by
  rw [runString]
  simp only [hquote, hslash, Nat.not_lt.2 hcontrol, ↓reduceIte, h]

theorem runString_escaped {number : Reader Char} {s s' cs r : List Char} {c : Char}
    (hstep : (escaped number).run s = .ok (c, s'))
    (h : runString number s' = .ok (cs, r)) :
    runString number ('\\' :: s) = .ok (c :: cs, r) := by
  rw [runString]
  simp only [show '\\' ≠ '"' by decide, ↓reduceIte]
  split
  · next heq =>
    rw [hstep] at heq
    cases heq
  · next heq =>
    rw [hstep] at heq
    cases heq
    simp only [h]

theorem run_escaped_of_simple {number : Reader Char} {c d : Char} (h : simpleEscape? c = some d)
    (s : List Char) : (escaped number).run (c :: s) = .ok (d, s) := by
  simp [escaped, run_bind, h]

theorem hexValue?_hexDigit : ∀ n < 16, hexValue? (hexDigit n) = some n := by decide

theorem run_quad {a b c d : Char} {n : Nat} (h : quadValue? a b c d = some n) (s : List Char) :
    quad.run (a :: b :: c :: d :: s) = .ok (n, s) := by
  have hbytes : ¬ReadError.byteCount ((a :: b :: c :: d :: s).take 4) < 4 := by
    have ha := a.utf8Size_pos
    have hb := b.utf8Size_pos
    have hc := c.utf8Size_pos
    have hd := d.utf8Size_pos
    simp only [ReadError.byteCount, List.take_succ_cons, List.take_zero]
    omega
  simp only [quad, hbytes, ↓reduceIte, h]

/-- A number below 256 in four hexadecimal digits. -/
theorem quadValue?_hexDigit {n : Nat} (hn : n < 0x100) :
    quadValue? '0' '0' (hexDigit (n / 16)) (hexDigit (n % 16)) = some n := by
  have hzero : hexValue? '0' = some 0 := by decide
  simp only [quadValue?, hzero, hexValue?_hexDigit _ (show n / 16 < 16 by omega),
    hexValue?_hexDigit _ (show n % 16 < 16 by omega), Option.bind_eq_bind,
    Option.bind_some, Option.pure_def, Option.some.injEq]
  omega

theorem run_escaped_control {c : Char} (hc : c.toNat < 0x20) (s : List Char) :
    (escaped numberedChar).run
      ('u' :: '0' :: '0' :: hexDigit (c.toNat / 16) :: hexDigit (c.toNat % 16) :: s) =
      .ok (c, s) := by
  have hquad := quadValue?_hexDigit (show c.toNat < 0x100 by omega)
  have hsimple : simpleEscape? 'u' = none := by decide
  have htrailing : ¬(0xDC00 ≤ c.toNat ∧ c.toNat ≤ 0xDFFF) := by omega
  have hleading : ¬(0xD800 ≤ c.toNat ∧ c.toNat ≤ 0xDBFF) := by omega
  simp only [escaped, run_bind, run_peek, List.head?_cons, hsimple, ↓reduceIte, run_advance,
    List.drop_succ_cons, List.drop_zero, numberedChar, run_quad hquad, htrailing, hleading,
    run_pure, Char.ofNat_toNat]

theorem runString_escapeChar (c : Char) {s cs r : List Char}
    (h : runString numberedChar s = .ok (cs, r)) :
    runString numberedChar (escapeChar c ++ s) = .ok (c :: cs, r) := by
  unfold escapeChar
  split_ifs with hquote hslash hb hf hn hr ht hcontrol
  · exact runString_escaped (run_escaped_of_simple (by rw [hquote]; decide) s) h
  · exact runString_escaped (run_escaped_of_simple (by rw [hslash]; decide) s) h
  · exact runString_escaped (run_escaped_of_simple (by rw [hb]; decide) s) h
  · exact runString_escaped (run_escaped_of_simple (by rw [hf]; decide) s) h
  · exact runString_escaped (run_escaped_of_simple (by rw [hn]; decide) s) h
  · exact runString_escaped (run_escaped_of_simple (by rw [hr]; decide) s) h
  · exact runString_escaped (run_escaped_of_simple (by rw [ht]; decide) s) h
  · exact runString_escaped (run_escaped_control hcontrol s) h
  · exact runString_plain hquote hslash (Nat.not_lt.1 hcontrol) h

/-- **A string is read back** up to its closing quotation mark. -/
theorem runString_escape (cs rest : List Char) :
    runString numberedChar (escape cs ++ '"' :: rest) = .ok (cs, rest) := by
  induction cs with
  | nil =>
    rw [escape, List.flatMap_nil, List.nil_append, runString]
    simp only [↓reduceIte]
  | cons c cs ih =>
    rw [escape, List.flatMap_cons, List.append_assoc]
    exact runString_escapeChar c ih

theorem run_string (s : String) (rest : List Char) :
    string.run (escape s.toList ++ '"' :: rest) = .ok (s, rest) := by
  rw [string, run_bind_of_ok (runString_escape s.toList rest), run_pure, String.ofList_toList]

/-! ## Integers -/

/-- The text does not go on with a number. -/
def Ends (rest : List Char) : Prop :=
  ∀ c ∈ rest.head?, c.isDigit = false ∧ c ≠ '.' ∧ c ≠ 'e' ∧ c ≠ 'E'

namespace Ends

variable {rest : List Char} (h : Ends rest)

include h in
theorem isDigit : ∀ c ∈ rest.head?, c.isDigit = false := fun c hc => (h c hc).1

include h in
theorem point : rest.head? ≠ some '.' := fun heq => (h '.' heq).2.1 rfl

include h in
theorem letter : ¬(rest.head? = some 'e' ∨ rest.head? = some 'E') := by
  rintro (heq | heq)
  · exact (h 'e' heq).2.2.1 rfl
  · exact (h 'E' heq).2.2.2 rfl

end Ends

theorem isDigit_of_mem_natChars {n : Nat} {c : Char} (h : c ∈ natChars n) : c.isDigit = true :=
  Nat.isDigit_of_mem_toDigits (by decide) (by decide) h

theorem ends_cons {c : Char} (rest : List Char)
    (h : c.isDigit = false ∧ c ≠ '.' ∧ c ≠ 'e' ∧ c ≠ 'E') : Ends (c :: rest) := by
  intro d hd
  cases hd
  exact h

section Digits

variable {digits rest : List Char} (hdigits : ∀ c ∈ digits, c.isDigit = true)
  (hrest : ∀ c ∈ rest.head?, c.isDigit = false)

include hdigits hrest in
theorem takeWhile_isDigit : (digits ++ rest).takeWhile Char.isDigit = digits := by
  rw [List.takeWhile_append_of_pos hdigits]
  cases rest with
  | nil => rw [List.takeWhile_nil, List.append_nil]
  | cons c rest =>
    rw [List.takeWhile_cons_of_neg (by rw [hrest c rfl]; decide), List.append_nil]

include hdigits hrest in
theorem dropWhile_isDigit : (digits ++ rest).dropWhile Char.isDigit = rest := by
  rw [List.dropWhile_append_of_pos hdigits]
  cases rest with
  | nil => rfl
  | cons c rest => rw [List.dropWhile_cons_of_neg (by rw [hrest c rfl]; decide)]

include hdigits hrest in
theorem run_wholeDigits (hne : digits ≠ []) :
    wholeDigits.run (digits ++ rest) = .ok (digits, rest) := by
  obtain ⟨c, more, rfl⟩ := List.exists_cons_of_ne_nil hne
  have hc : c.isDigit = true := hdigits c List.mem_cons_self
  simp only [wholeDigits, run_bind, run_peek, List.cons_append, List.head?_cons, hc, ↓reduceIte,
    run_takeWhile]
  rw [← List.cons_append, takeWhile_isDigit hdigits hrest, dropWhile_isDigit hdigits hrest]

end Digits

/-- Only zero is written with a zero in front. -/
theorem tail_eq_nil_of_natChars {n : Nat} {rest : List Char} (h : natChars n = '0' :: rest) :
    rest = [] := by
  induction n using Nat.strongRecOn generalizing rest with
  | ind n ih =>
    unfold natChars at h ih
    by_cases hn : n < 10
    · rw [Nat.toDigits_of_lt_base hn] at h
      exact (List.cons.inj h).2.symm
    · rw [Nat.toDigits_of_base_le (by decide) (Nat.not_lt.1 hn)] at h
      cases hfront : Nat.toDigits 10 (n / 10) with
      | nil => exact absurd hfront Nat.toDigits_ne_nil
      | cons c front =>
        rw [hfront, List.cons_append, List.cons.injEq] at h
        obtain ⟨rfl, hback⟩ := h
        -- the digits before the last one are a single zero, yet `n / 10` is not zero
        have hnil := ih (n / 10) (by omega) hfront
        have hvalue := Nat.ofDigitChars_ten_toDigits (n := n / 10)
        rw [hfront, hnil] at hvalue
        have hzero : Nat.ofDigitChars 10 ['0'] 0 = 0 := by decide
        omega

theorem run_refuseLeadingZero (n : Nat) (s : List Char) :
    (refuseLeadingZero (natChars n)).run s = .ok ((), s) := by
  simp only [refuseLeadingZero]
  split
  · next c more heq => cases tail_eq_nil_of_natChars heq
  · rfl

theorem le_ofDigitChars (digits : List Char) (word : Nat) :
    word ≤ Nat.ofDigitChars 10 digits word := by
  induction digits generalizing word with
  | nil => exact Nat.le_of_eq Nat.ofDigitChars_nil.symm
  | cons c digits ih =>
    rw [Nat.ofDigitChars_cons]
    have := ih (10 * word + (c.toNat - '0'.toNat))
    omega

theorem appendWhole_eq {digits : List Char} {word : Nat}
    (h : Nat.ofDigitChars 10 digits word ≤ maxWord) :
    appendWhole word digits = (Nat.ofDigitChars 10 digits word, 0) := by
  induction digits generalizing word with
  | nil => rw [appendWhole, Nat.ofDigitChars_nil]
  | cons c digits ih =>
    rw [Nat.ofDigitChars_cons, Nat.mul_comm] at h ⊢
    have hlonger := le_ofDigitChars digits (word * 10 + (c.toNat - '0'.toNat))
    rw [appendWhole]
    simp only [digitValue, show word * 10 + (c.toNat - '0'.toNat) ≤ maxWord by omega, ↓reduceIte]
    exact ih h

/-- **An integer is read back** behind its sign. -/
theorem run_number_natChars (negative : Bool) {n : Nat} (hn : n ≤ maxWord) {rest : List Char}
    (hrest : Ends rest) :
    (number negative).run (natChars n ++ rest) = .ok (integer negative n, rest) := by
  have hwhole : wholeDigits.run (natChars n ++ rest) = .ok (natChars n, rest) :=
    run_wholeDigits (fun c => isDigit_of_mem_natChars) hrest.isDigit Nat.toDigits_ne_nil
  have hword : appendWhole 0 (natChars n) = (n, 0) := by
    have hvalue : Nat.ofDigitChars 10 (natChars n) 0 = n := Nat.ofDigitChars_ten_toDigits
    rw [appendWhole_eq (by rwa [hvalue]), hvalue]
  rw [number, run_bind_of_ok hwhole, run_bind_of_ok (run_refuseLeadingZero n rest)]
  simp only [hword, run_bind, run_peek, run_pure, hrest.point, hrest.letter, ↓reduceIte, ne_eq,
    not_true_eq_false, or_self]

/-! ## Minus zero -/

theorem floatChars_minusZero : floatChars minusZero = ['-', '0', '.', '0'] := by decide +kernel

theorem scaled_zero : Decimal.scaled? (Nat.toUInt64 0) (-1) = some (0 : UInt64).toFloat := by
  have hx : (0 : UInt64).toFloat / Decimal.powerOfTen 1 = (0 : UInt64).toFloat := by
    decide +kernel
  rw [Decimal.scaled?, if_pos (by decide), Decimal.divideByPower]
  exact congrArg some hx

theorem run_fractionDigits_zero {rest : List Char} (hrest : Ends rest) :
    fractionDigits.run ('0' :: rest) = .ok (['0'], rest) := by
  have hzero : ∀ c ∈ ['0'], c.isDigit = true := List.forall_mem_singleton.2 (by decide)
  have htake := takeWhile_isDigit hzero hrest.isDigit
  have hdrop := dropWhile_isDigit hzero hrest.isDigit
  rw [List.singleton_append] at htake hdrop
  simp only [fractionDigits, run_bind, run_takeWhile, htake, hdrop]
  rfl

/-- **Minus zero is read back** behind its sign. -/
theorem run_number_minusZero {rest : List Char} (hrest : Ends rest) :
    (number true).run ('0' :: '.' :: '0' :: rest) = .ok (.float minusZero, rest) := by
  have hdigit : ∀ c ∈ ['0'], c.isDigit = true := List.forall_mem_singleton.2 (by decide)
  have hpoint : ∀ c ∈ ('.' :: '0' :: rest).head?, c.isDigit = false := by
    intro c hc
    cases hc
    decide
  have hzero : (refuseLeadingZero ['0']).run ('.' :: '0' :: rest) = .ok ((), '.' :: '0' :: rest) :=
    rfl
  have hwhole : appendWhole 0 ['0'] = (0, 0) := by decide
  have hfraction : appendFraction 0 ['0'] = (0, 1) := by decide
  have hexponent : ((0 : Nat) : Int) - ((1 : Nat) : Int) = -1 := rfl
  rw [number, ← List.singleton_append, run_bind_of_ok (run_wholeDigits hdigit hpoint (by decide)),
    run_bind_of_ok hzero]
  simp only [hwhole, hfraction, run_bind, run_peek, run_pure, List.head?_cons, run_advance,
    hrest.letter, ↓reduceIte, List.drop_succ_cons, List.drop_zero, run_fractionDigits_zero hrest,
    true_or, number.finish, hexponent, scaled_zero]
  rfl

/-! ## Number literals -/

theorem ne_of_isDigit {c d : Char} (hc : c.isDigit = true) (hd : d.isDigit = false) : c ≠ d := by
  rintro rfl
  cases hc.symm.trans hd

theorem run_scalar_minus {n : Number} {s r : List Char} (h : (number true).run s = .ok (n, r)) :
    (scalar '-').run ('-' :: s) = .ok (.num n, r) := by
  have hscalar : scalar '-' = (do advance; return .num (← number true)) := rfl
  rw [hscalar, run_bind_of_ok (run_advance _), List.drop_one, List.tail_cons, run_bind_of_ok h,
    run_pure]

theorem scalar_of_isDigit {c : Char} (hc : c.isDigit = true) :
    scalar c = (do return .num (← number false)) := by
  simp only [scalar, ne_of_isDigit hc (show 'n'.isDigit = false by decide),
    ne_of_isDigit hc (show 't'.isDigit = false by decide),
    ne_of_isDigit hc (show 'f'.isDigit = false by decide),
    ne_of_isDigit hc (show '-'.isDigit = false by decide), hc, ↓reduceIte]

theorem run_scalar_digit {c : Char} (hc : c.isDigit = true) {n : Number} {s r : List Char}
    (h : (number false).run (c :: s) = .ok (n, r)) :
    (scalar c).run (c :: s) = .ok (.num n, r) := by
  rw [scalar_of_isDigit hc, run_bind_of_ok h, run_pure]

theorem integer_of_neg {n : Int} (hneg : n < 0) (hn : -0x8000000000000000 ≤ n) :
    integer true n.natAbs = .int n := by
  rw [integer, if_pos rfl, if_neg (by omega), Int.ofNat_natAbs_of_nonpos (by omega), Int.neg_neg]

theorem integer_of_nonneg {n : Int} (hn : 0 ≤ n) : integer false n.natAbs = .int n := by
  rw [integer, if_neg (by decide), Int.natAbs_of_nonneg hn]

end Json.Reader

open Json Json.Reader in
/-- The literal of the number is read back, where the text does not go on with a number. -/
def Number.Kept (n : Number) : Prop :=
  ∃ c tail, numberChars n = c :: tail ∧ (c = '-' ∨ c.isDigit = true) ∧ ∀ rest, Ends rest →
    (scalar c).run (c :: (tail ++ rest)) = .ok (.num n, rest)

open Json Json.Reader in
/-- **An integer of 64 bits is read back.** -/
theorem Number.Integral.kept {n : Number} (hn : n.Integral) : n.Kept := by
  cases n with
  | int n =>
    obtain ⟨hlow, hhigh⟩ := hn
    have hword : n.natAbs ≤ maxWord := by
      unfold maxWord
      omega
    by_cases hneg : n < 0
    · refine ⟨'-', natChars n.natAbs, if_pos hneg, .inl rfl, fun rest hrest => ?_⟩
      rw [run_scalar_minus (run_number_natChars true hword hrest), integer_of_neg hneg hlow]
    · cases hdigits : natChars n.natAbs with
      | nil => exact absurd hdigits Nat.toDigits_ne_nil
      | cons d more =>
        have hd : d.isDigit = true := isDigit_of_mem_natChars (hdigits ▸ List.mem_cons_self)
        refine ⟨d, more, (if_neg hneg).trans hdigits, .inr hd, fun rest hrest => ?_⟩
        have hnumber := run_number_natChars false hword hrest
        rw [hdigits, List.cons_append, integer_of_nonneg (Int.not_lt.1 hneg)] at hnumber
        exact run_scalar_digit hd hnumber
  | float x =>
    obtain rfl : x = minusZero := hn
    refine ⟨'-', ['0', '.', '0'], floatChars_minusZero, .inl rfl, fun rest hrest => ?_⟩
    exact run_scalar_minus (run_number_minusZero hrest)

end ToolScaffold
