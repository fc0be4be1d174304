import ToolScaffold.Proofs.Json.Runs

/-!
# Passing over values

What is only passed over is held to the grammar, but to less of it than what is kept: not to the
depth, the size of numbers, or the pairing of surrogates. `run_skip`: where a value can be read, it
can be passed over, up to the same place.
-/

namespace ToolScaffold.Json.Reader

/-! ## Strings -/

/-- A character by number that is passed over. -/
def skippedChar : Reader Char := do
  let _ ← quad
  return ' '

theorem run_escaped_eq_ok {number : Reader Char} {s r : List Char} {d : Char}
    (h : (escaped number).run s = .ok (d, r)) :
    (∃ c, s = c :: r ∧ simpleEscape? c = some d) ∨ ∃ tail, s = 'u' :: tail ∧
      number.run tail = .ok (d, r) := by
  rw [escaped, run_bind_of_ok (run_peek s)] at h
  cases s with
  | nil => cases h
  | cons c tail =>
    rw [List.head?_cons] at h
    dsimp only at h
    cases hsimple : simpleEscape? c with
    | some e =>
      rw [hsimple] at h
      cases h
      exact .inl ⟨c, rfl, hsimple⟩
    | none =>
      rw [hsimple] at h
      dsimp only at h
      split at h
      · next hu => exact .inr ⟨tail, by rw [hu], h⟩
      · cases h

/-- One letter of a word that is expected. -/
theorem run_letter_eq_ok {ended other : Cause} {letter : Char} {s r : List Char}
    {step : ForInStep PUnit}
    (h : (do
      match ← peek with
      | none => do
        fail ended
        return .yield PUnit.unit
      | some c =>
        if c = letter then do
          advance
          return .yield PUnit.unit
        else do
          failAtNext other
          return .yield PUnit.unit : Reader (ForInStep PUnit)).run s = .ok (step, r)) :
    s = letter :: r ∧ step = .yield PUnit.unit := by
  rw [run_bind_of_ok (run_peek s)] at h
  cases s with
  | nil => cases h
  | cons c s =>
    rw [List.head?_cons] at h
    dsimp only at h
    split at h
    · next hc =>
      cases h
      exact ⟨by rw [hc]; rfl, rfl⟩
    · cases h

/-- The trailing half of a surrogate pair is an escape of its own. -/
theorem run_trailingSurrogate_eq_ok {leading : Nat} {s r : List Char} {d : Char}
    (h : (trailingSurrogate leading).run s = .ok (d, r)) :
    ∃ m tail, s = '\\' :: 'u' :: tail ∧ quad.run tail = .ok (m, r) := by
  obtain ⟨_, tail, hletters, h⟩ := run_bind_eq_ok_iff.1 h
  obtain ⟨m, r', hquad, h⟩ := run_bind_eq_ok_iff.1 h
  have hr : r' = r := by
    split at h
    · rw [run_pure, Except.ok.injEq, Prod.mk.injEq] at h
      exact h.2
    · cases h
  rw [List.forIn_cons] at hletters
  obtain ⟨_, s', hslash, hletters⟩ := run_bind_eq_ok_iff.1 hletters
  obtain ⟨rfl, rfl⟩ := run_letter_eq_ok hslash
  dsimp only at hletters
  rw [List.forIn_cons] at hletters
  obtain ⟨_, s', hu, hletters⟩ := run_bind_eq_ok_iff.1 hletters
  obtain ⟨rfl, rfl⟩ := run_letter_eq_ok hu
  cases hletters
  exact ⟨m, tail, rfl, hr ▸ hquad⟩

/-- A character by number is written by one escape, or by two that follow each other. -/
theorem run_numberedChar_eq_ok {s r : List Char} {d : Char} (h : numberedChar.run s = .ok (d, r)) :
    (∃ n, quad.run s = .ok (n, r)) ∨ ∃ n m tail, quad.run s = .ok (n, '\\' :: 'u' :: tail) ∧
      quad.run tail = .ok (m, r) := by
  obtain ⟨n, s', hquad, h⟩ := run_bind_eq_ok_iff.1 h
  split at h
  · cases h
  · split at h
    · obtain ⟨m, tail, rfl, htrailing⟩ := run_trailingSurrogate_eq_ok h
      exact .inr ⟨n, m, tail, hquad, htrailing⟩
    · cases h
      exact .inl ⟨n, hquad⟩

theorem run_skippedChar {s r : List Char} {n : Nat} (h : quad.run s = .ok (n, r)) :
    skippedChar.run s = .ok (' ', r) := by
  rw [skippedChar, run_bind_of_ok h, run_pure]

theorem run_escaped_of_number {number : Reader Char} {s r : List Char} {d : Char}
    (h : number.run s = .ok (d, r)) : (escaped number).run ('u' :: s) = .ok (d, r) := by
  have hsimple : simpleEscape? 'u' = none := by decide
  rw [escaped, run_bind_of_ok (run_peek _), List.head?_cons]
  simp only [hsimple, ↓reduceIte, run_bind, run_advance, List.drop_one, List.tail_cons, h]

/-- **A string can be passed over** where it can be read. -/
theorem runString_skippedChar {s cs r : List Char} (h : runString numberedChar s = .ok (cs, r)) :
    ∃ passed, runString skippedChar s = .ok (passed, r) := by
  fun_induction runString numberedChar s generalizing cs r with
  | case1 => cases h
  | case2 rest => 
    cases h
    exact ⟨[], by rw [runString, if_pos rfl]⟩
  | case3 => cases h
  | case4 => cases h
  | case5 rest d rest' hr cs' r' hs hq ih =>
    cases h
    obtain ⟨passed, hpassed⟩ := ih hs
    rcases run_escaped_eq_ok hr with ⟨c, rfl, hsimple⟩ | ⟨tail, rfl, hnumber⟩
    · exact ⟨_, runString_escaped (run_escaped_of_simple hsimple rest') hpassed⟩
    · rcases run_numberedChar_eq_ok hnumber with ⟨n, hquad⟩ | ⟨n, m, tail', hfirst, hsecond⟩
      · exact ⟨_, runString_escaped (run_escaped_of_number (run_skippedChar hquad)) hpassed⟩
      · have htrailing :=
          runString_escaped (run_escaped_of_number (run_skippedChar hsecond)) hpassed
        exact ⟨_, runString_escaped (run_escaped_of_number (run_skippedChar hfirst)) htrailing⟩
  | case6 => cases h
  | case7 => cases h
  | case8 c rest hquote hslash hcontrol cs' r' hs ih =>
    cases h
    obtain ⟨passed, hpassed⟩ := ih hs
    exact ⟨_, runString_plain hquote hslash (Nat.not_lt.1 hcontrol) hpassed⟩

theorem run_skipString {s r : List Char} {t : String} (h : string.run s = .ok (t, r)) :
    skipString.run s = .ok ((), r) := by
  obtain ⟨cs, r', hcs, h⟩ := run_bind_eq_ok_iff.1 h
  cases h
  obtain ⟨passed, hpassed⟩ := runString_skippedChar hcs
  exact run_bind_of_ok hpassed

/-! ## Numbers -/

/-- A reader of digits where one has to stand. -/
def ifDigit {α : Type} (digits : Reader α) : Reader α := do
  match ← peek with
  | none => fail .endInValue
  | some c => if c.isDigit then digits else failAtNext .invalidNumber

theorem run_ifDigit_eq_ok {α : Type} {digits : Reader α} {s r : List Char} {a : α}
    (h : (ifDigit digits).run s = .ok (a, r)) :
    s.takeWhile Char.isDigit ≠ [] ∧ digits.run s = .ok (a, r) := by
  rw [ifDigit, run_bind_of_ok (run_peek s)] at h
  cases s with
  | nil => cases h
  | cons c tail =>
    rw [List.head?_cons] at h
    dsimp only at h
    split at h
    · next hc =>
      rw [List.takeWhile_cons_of_pos hc]
      exact ⟨List.cons_ne_nil _ _, h⟩
    · cases h

theorem run_wholeDigits_eq_ok {s digits r : List Char} (h : wholeDigits.run s = .ok (digits, r)) :
    digits ≠ [] ∧ digits = s.takeWhile Char.isDigit ∧ r = s.dropWhile Char.isDigit := by
  have hdigit : (ifDigit (takeWhile Char.isDigit)).run s = .ok (digits, r) := h
  obtain ⟨hne, h⟩ := run_ifDigit_eq_ok hdigit
  cases h
  exact ⟨hne, rfl, rfl⟩

theorem run_fractionDigits_eq_ok {s digits r : List Char}
    (h : fractionDigits.run s = .ok (digits, r)) :
    digits ≠ [] ∧ digits = s.takeWhile Char.isDigit ∧ r = s.dropWhile Char.isDigit := by
  rw [fractionDigits, run_bind_of_ok (run_takeWhile _ s)] at h
  split at h
  · obtain ⟨c, _, -, h⟩ := run_bind_eq_ok_iff.1 h
    cases c <;> cases h
  · next hne =>
    cases h
    exact ⟨fun h => hne (List.isEmpty_iff.2 h), rfl, rfl⟩

theorem runExponent_eq_ok {refuse : Bool} {value n : Nat} {s r : List Char}
    (h : runExponent refuse value s = .ok (n, r)) : r = s.dropWhile Char.isDigit := by
  induction s generalizing value with
  | nil =>
    cases h
    rfl
  | cons c rest ih =>
    rw [runExponent] at h
    split at h
    · next hc =>
      rw [List.dropWhile_cons_of_pos hc]
      dsimp only at h
      split at h
      · exact ih h
      · split at h
        · cases h
        · cases h
          rfl
    · next hc =>
      cases h
      rw [List.dropWhile_cons_of_neg hc]

/-- The exponent of a number that is passed over, if there is one. -/
def skipExponent : Reader Unit := do
  let letter ← peek
  if letter = some 'e' ∨ letter = some 'E' then
    advance
    let sign ← peek
    if sign = some '+' ∨ sign = some '-' then advance
    let exponent ← takeWhile Char.isDigit
    if exponent.isEmpty then failAtNext .invalidNumber

theorem skipNumber_eq : skipNumber = (do
    skipNumber.digits
    if (← peek) = some '.' then
      advance
      let fraction ← takeWhile Char.isDigit
      if fraction.isEmpty then failAtNext .invalidNumber
      skipExponent
    else skipExponent) := rfl

theorem skipNumber_digits {s digits r r' : List Char} {u : Unit}
    (h : wholeDigits.run s = .ok (digits, r))
    (hzero : (refuseLeadingZero digits).run r = .ok (u, r')) :
    skipNumber.digits.run s = .ok (u, r') := by
  obtain ⟨hne, rfl, rfl⟩ := run_wholeDigits_eq_ok h
  rw [skipNumber.digits, run_bind_of_ok (run_takeWhile _ s)]
  dsimp only
  rw [if_neg fun hempty => hne (List.isEmpty_iff.1 hempty)]
  exact hzero

theorem run_skipExponent {s r : List Char} {word : Nat} {e : Int}
    (hletter : s.head? = some 'e' ∨ s.head? = some 'E')
    (h : (exponentValue word).run (s.drop 1) = .ok (e, r)) : skipExponent.run s = .ok ((), r) := by
  have hdigits : ∀ {t : List Char} {refuse : Bool} {f : Nat → Int},
      (ifDigit do
        let value ← (⟨runExponent refuse 0, runExponent_shrinks refuse 0 _⟩ : Reader Nat)
        return f value).run t = .ok (e, r) → (do
        let exponent ← takeWhile Char.isDigit
        if exponent.isEmpty then failAtNext .invalidNumber : Reader Unit).run t = .ok ((), r) := by
    intro t refuse f h
    obtain ⟨hne, h⟩ := run_ifDigit_eq_ok h
    obtain ⟨n, r', hn, h⟩ := run_bind_eq_ok_iff.1 h
    cases h
    obtain rfl := runExponent_eq_ok hn
    rw [run_bind_of_ok (run_takeWhile _ t), if_neg fun hempty => hne (List.isEmpty_iff.1 hempty)]
    rfl
  rw [skipExponent, run_bind_of_ok (run_peek s), if_pos hletter, run_bind_of_ok (run_advance s),
    run_bind_of_ok (run_peek _)]
  obtain ⟨sign, s', hsign, h⟩ := run_bind_eq_ok_iff.1 h
  cases hsign
  split at h
  · next hs =>
    rw [if_pos hs]
    exact hdigits h
  · next hs =>
    rw [if_neg hs]
    exact hdigits h

/-- The exponent of a number, if there is one, and the number itself. -/
def numberEnd (negative : Bool) (mark : Option Char) (dropped : Nat) (parts : Nat × Nat) :
    Reader Number := do
  let point : Int := dropped - parts.2
  let letter ← peek
  if letter = some 'e' ∨ letter = some 'E' then
    advance
    number.finish negative parts.1 (point + (← exponentValue parts.1))
  else if mark = some '.' ∨ dropped ≠ 0 then number.finish negative parts.1 point
  else return integer negative parts.1

theorem number_eq (negative : Bool) : number negative = (do
    let whole ← wholeDigits
    refuseLeadingZero whole
    let parts := appendWhole 0 whole
    let mark ← peek
    if mark = some '.' then
      advance
      let digits ← fractionDigits
      numberEnd negative mark parts.2 (appendFraction parts.1 digits)
    else numberEnd negative mark parts.2 (parts.1, 0)) := rfl

theorem run_finish_eq_ok {negative : Bool} {word : Nat} {exponent : Int} {s r : List Char}
    {n : Number} (h : (number.finish negative word exponent).run s = .ok (n, r)) : r = s := by
  unfold number.finish at h
  split at h <;> cases h
  rfl

theorem run_numberEnd_eq_ok {negative : Bool} {mark : Option Char} {dropped : Nat}
    {parts : Nat × Nat} {s r : List Char} {n : Number}
    (h : (numberEnd negative mark dropped parts).run s = .ok (n, r)) :
    skipExponent.run s = .ok ((), r) := by
  rw [numberEnd, run_bind_of_ok (run_peek s)] at h
  split at h
  · next hletter =>
    rw [run_bind_of_ok (run_advance s)] at h
    obtain ⟨e, s', hexponent, h⟩ := run_bind_eq_ok_iff.1 h
    rw [run_finish_eq_ok h]
    exact run_skipExponent hletter hexponent
  · next hletter =>
    have hr : r = s := by
      split at h
      · exact run_finish_eq_ok h
      · cases h
        rfl
    rw [skipExponent, run_bind_of_ok (run_peek s), if_neg hletter, run_pure, hr]

/-- **A number can be passed over** where it can be read. -/
theorem run_skipNumber {negative : Bool} {s r : List Char} {n : Number}
    (h : (number negative).run s = .ok (n, r)) : skipNumber.run s = .ok ((), r) := by
  rw [number_eq] at h
  obtain ⟨whole, s₁, hwhole, h⟩ := run_bind_eq_ok_iff.1 h
  obtain ⟨_, s₂, hzero, h⟩ := run_bind_eq_ok_iff.1 h
  rw [run_bind_of_ok (run_peek s₂)] at h
  rw [skipNumber_eq, run_bind_of_ok (skipNumber_digits hwhole hzero), run_bind_of_ok (run_peek s₂)]
  split at h
  · next hpoint =>
    rw [run_bind_of_ok (run_advance s₂)] at h
    obtain ⟨digits, s₃, hfraction, h⟩ := run_bind_eq_ok_iff.1 h
    obtain ⟨hne, rfl, rfl⟩ := run_fractionDigits_eq_ok hfraction
    rw [if_pos hpoint, run_bind_of_ok (run_advance s₂), run_bind_of_ok (run_takeWhile _ _),
      if_neg fun hempty => hne (List.isEmpty_iff.1 hempty)]
    exact run_numberEnd_eq_ok h
  · next hpoint =>
    rw [if_neg hpoint]
    exact run_numberEnd_eq_ok h

/-! ## Values -/

theorem run_skipScalar {c : Char} {s r : List Char} {v : Json}
    (h : (scalar c).run (c :: s) = .ok (v, r)) : (skipScalar c).run (c :: s) = .ok ((), r) := by
  unfold skipScalar
  split_ifs with hminus hdigit hquote
  · subst hminus
    obtain ⟨n, r', hnumber, h⟩ := run_bind_eq_ok_iff (x := number true) (s := s).1 h
    cases h
    rw [run_bind_of_ok (run_advance _)]
    exact run_skipNumber hnumber
  · rw [scalar_of_isDigit hdigit] at h
    obtain ⟨n, r', hnumber, h⟩ := run_bind_eq_ok_iff.1 h
    cases h
    exact run_skipNumber hnumber
  · subst hquote
    obtain ⟨t, r', hstring, h⟩ := run_bind_eq_ok_iff (x := string) (s := s).1 h
    cases h
    rw [run_bind_of_ok (run_advance _)]
    exact run_skipString hstring
  · rw [run_bind_of_ok h]
    rfl

/-! ## Items between brackets -/

section Items

variable {α β σ τ : Type}

/-- `y` passes over whatever `x` reads from a text of less than `size` characters. -/
def PassesOver (size : Nat) (y : Reader β) (x : Reader α) : Prop :=
  ∀ s a r, s.length < size → x.run s = .ok (a, r) → ∃ b, y.run s = .ok (b, r)

/-- The same brackets, with checks that pass where those of `b` do. -/
structure Eases (b' b : Brackets) : Prop where
  close_eq : b'.close = b.close
  beforeFirst {s r : List Char} {u : Unit} (h : b.beforeFirst.run s = .ok (u, r)) :
    b'.beforeFirst.run s = .ok (u, r)
  afterComma {s r : List Char} {u : Unit} (h : b.afterComma.run s = .ok (u, r)) :
    b'.afterComma.run s = .ok (u, r)

variable {size : Nat} {b b' : Brackets} {item : σ → Reader σ} {item' : τ → Reader τ}
  (hb : Eases b' b) (hitem : ∀ acc acc', PassesOver size (item' acc') (item acc))

include hb hitem in
theorem rest_passesOver {acc a : σ} {s r : List Char} (h : b.Rest item acc s a r)
    (hs : s.length < size) (acc' : τ) : ∃ a', b'.Rest item' acc' s a' r := by
  induction h generalizing acc' with
  | close hleft => exact ⟨acc', .close (hb.close_eq ▸ hleft)⟩
  | @comma acc acc₁ a s rest rest₁ r hleft hne hstep _ ih =>
    have hshorter : rest.length < s.length := by
      have h := (List.dropWhile_sublist isSpace (l := s)).length_le
      rw [hleft, List.length_cons] at h
      exact h
    obtain ⟨c, s₁, hnext, hstep⟩ := run_bind_eq_ok_iff.1 hstep
    obtain ⟨u, s₂, hcheck, hstep⟩ := run_bind_eq_ok_iff.1 hstep
    have h₁ := next.shrinks hnext
    have h₂ := b.afterComma.shrinks hcheck
    have h₃ := (item acc).shrinks hstep
    obtain ⟨acc₂, hstep'⟩ := hitem acc acc' s₂ acc₁ rest₁ (by omega) hstep
    obtain ⟨a', hmore⟩ := ih (by omega) acc₂
    refine ⟨a', .comma hleft (hb.close_eq ▸ hne) ?_ hmore⟩
    rw [run_bind_of_ok hnext, run_bind_of_ok (hb.afterComma hcheck), hstep']

include hb hitem in
/-- **Items can be passed over** where they can be read one by one. -/
theorem items_passesOver (acc : σ) (acc' : τ) :
    PassesOver size (b'.items item' acc') (b.items item acc) := by
  intro s a r hs h
  rcases run_items_eq_ok_iff.1 h with
    hleft | @⟨acc₁, _, c, _, tail, rest, _, hleft, hne, hstep, hmore⟩
  · exact ⟨acc', run_items_eq_ok_iff.2 (.empty (hb.close_eq ▸ hleft))⟩
  · have hshorter := (List.dropWhile_sublist isSpace (l := s)).length_le
    rw [hleft] at hshorter
    obtain ⟨u, s₁, hcheck, hstep⟩ := run_bind_eq_ok_iff.1 hstep
    have h₁ := b.beforeFirst.shrinks hcheck
    have h₂ := (item acc).shrinks hstep
    obtain ⟨acc₂, hstep'⟩ := hitem acc acc' s₁ acc₁ rest (by omega) hstep
    obtain ⟨a', hmore'⟩ := rest_passesOver hb hitem hmore (by omega) acc₂
    refine ⟨a', run_items_eq_ok_iff.2 (.first hleft (hb.close_eq ▸ hne) ?_ hmore')⟩
    rw [run_bind_of_ok (hb.beforeFirst hcheck), hstep']

end Items

theorem eases_list : Eases skippedList listBrackets where
  close_eq := rfl
  beforeFirst h := h
  afterComma {s r u} h := by
    obtain ⟨c, s', hpeek, h⟩ := run_bind_eq_ok_iff.1 h
    cases hpeek
    split at h
    · cases h
    · split at h <;> cases h
      rfl

theorem eases_object : Eases skippedObject objectBrackets where
  close_eq := rfl
  beforeFirst {s r u} h := by
    obtain ⟨c, s', hpeek, h⟩ := run_bind_eq_ok_iff.1 h
    cases hpeek
    split at h
    · cases h
    · next hquote =>
      cases h
      obtain ⟨tail, rfl⟩ := List.head?_eq_some_iff.1 (Decidable.not_not.1 hquote)
      rfl
  afterComma {s r u} h := by
    obtain ⟨c, s', hpeek, h⟩ := run_bind_eq_ok_iff.1 h
    cases hpeek
    cases s with
    | nil => cases h
    | cons c tail =>
      rw [List.head?_cons] at h
      dsimp only at h
      split_ifs at h with hclose hquote
      · cases h
      · cases h
      · cases h
        rw [Decidable.not_not.1 hquote]
        rfl

theorem listItem_passesOver {levels size : Nat}
    (h : PassesOver size (skipWithin size) (value levels)) (acc : Array Json) :
    PassesOver size (skipWithin size) (listItem (value levels) acc) := by
  intro s a r hs hrun
  obtain ⟨v, r', hvalue, hrun⟩ := run_bind_eq_ok_iff.1 hrun
  cases hrun
  exact h s v r hs hvalue

/-- A field that is passed over. -/
def skippedField (size : Nat) (_ : Unit) : Reader Unit := do
  advance
  skipString
  colon
  skipWithin size

theorem objectItem_passesOver {levels size : Nat}
    (h : PassesOver size (skipWithin size) (value levels)) (fields : Fields) (acc' : Unit) :
    PassesOver size (skippedField size acc') (objectItem (value levels) fields) := by
  intro s a r hs hrun
  obtain ⟨name, s₃, hkey, hrun⟩ := run_bind_eq_ok_iff.1 hrun
  obtain ⟨v, r', hvalue, hrun⟩ := run_bind_eq_ok_iff.1 hrun
  cases hrun
  have h₃ := key.shrinks hkey
  obtain ⟨_, s₁, hadvance, hkey⟩ := run_bind_eq_ok_iff.1 hkey
  obtain ⟨_, s₂, hstring, hkey⟩ := run_bind_eq_ok_iff.1 hkey
  obtain ⟨_, _, hcolon, hkey⟩ := run_bind_eq_ok_iff.1 hkey
  cases hkey
  obtain ⟨passed, hpassed⟩ := h s₃ v r (by omega) hvalue
  refine ⟨passed, ?_⟩
  rw [skippedField, run_bind_of_ok hadvance, run_bind_of_ok (run_skipString hstring),
    run_bind_of_ok hcolon, hpassed]

theorem run_skipWithin_of_scalar {size : Nat} {c : Char} {s tail r : List Char} {v : Json}
    (hs : s.dropWhile isSpace = c :: tail) (hlist : c ≠ '[') (hobject : c ≠ '\x7b')
    (h : (scalar c).run (c :: tail) = .ok (v, r)) :
    (skipWithin (size + 1)).run s = .ok ((), r) := by
  rw [skipWithin, run_bind_of_ok (run_next_eq s), hs, List.head?_cons]
  dsimp only
  rw [if_neg hlist, if_neg hobject]
  exact run_skipScalar h

/-- A value is passed over with as many levels as the text has characters. -/
theorem skipWithin_passesOver (levels size : Nat) :
    PassesOver size (skipWithin size) (value levels) := by
  -- along the levels of the value; each of them takes a character off the text
  induction levels generalizing size with
  | zero =>
    intro s v r hsize h
    obtain ⟨size, rfl⟩ := Nat.exists_eq_add_one.2 (Nat.zero_lt_of_lt hsize)
    have hvalue := run_value_eq_ok_iff.1 h
    generalize hs : s.dropWhile isSpace = t at hvalue
    cases hvalue with
    | scalar hlist hobject hscalar =>
      exact ⟨(), run_skipWithin_of_scalar hs hlist hobject hscalar⟩
  | succ levels ih =>
    intro s v r hsize h
    obtain ⟨size, rfl⟩ := Nat.exists_eq_add_one.2 (Nat.zero_lt_of_lt hsize)
    have hvalue := run_value_eq_ok_iff.1 h
    have hshorter := (List.dropWhile_sublist isSpace (l := s)).length_le
    generalize hs : s.dropWhile isSpace = t at hvalue hshorter
    cases hvalue with
    | @list _ tail _ items hitems =>
      rw [List.length_cons] at hshorter
      obtain ⟨passed, hpassed⟩ := items_passesOver eases_list
        (fun acc _ => listItem_passesOver (ih size) acc) #[] () tail items r (by omega)
        (run_items_eq_ok_iff.2 hitems)
      refine ⟨passed, ?_⟩
      rw [skipWithin, run_bind_of_ok (run_next_eq s), hs, List.head?_cons]
      dsimp only
      rw [if_pos rfl, run_bind_of_ok (run_advance _)]
      exact hpassed
    | @object _ tail _ fields hfields =>
      rw [List.length_cons] at hshorter
      obtain ⟨passed, hpassed⟩ := items_passesOver eases_object
        (objectItem_passesOver (ih size)) [] () tail fields r (by omega)
        (run_items_eq_ok_iff.2 hfields)
      refine ⟨passed, ?_⟩
      rw [skipWithin, run_bind_of_ok (run_next_eq s), hs, List.head?_cons]
      dsimp only
      rw [if_neg (by decide), if_pos rfl, run_bind_of_ok (run_advance _)]
      exact hpassed
    | scalar hlist hobject hscalar =>
      exact ⟨(), run_skipWithin_of_scalar hs hlist hobject hscalar⟩

/-- **A value can be passed over** where it can be read. -/
theorem run_skip {levels : Nat} {s r : List Char} {v : Json}
    (h : (value levels).run s = .ok (v, r)) : skip.run s = .ok ((), r) := by
  obtain ⟨_, hskip⟩ := skipWithin_passesOver levels (s.length + 1) s v r (Nat.lt_succ_self _) h
  exact hskip

end ToolScaffold.Json.Reader
