import Mathlib.Tactic.SplitIfs
import ToolScaffold.Server.Function

/-!
# Code and literals of a source

A source is read as code and string literals (`Lexeme.scan`): a literal stands between one or three
double quotes, a backslash escapes the character after it, and the literal ends at the first
delimiter that is not escaped. A source in which a literal is left open cannot be read.

`Inert` texts hold no double quote and no backslash that is not escaped; between delimiters they
are the whole content of a literal (`splitAtClose_inert`), and no part of them ends it
(`scan_eq_none`). What stands inside of a quoted string is inert (`inert_escape`).
-/

namespace ToolScaffold.Server

/-- A character of code, or a literal with the text between its delimiters. -/
inductive Lexeme where
  | code (c : Char)
  | literal (isLong : Bool) (content : List Char)
  deriving DecidableEq, Repr

namespace Lexeme

/-! ## Reading a source -/

/-- What stands on both sides of a literal. -/
def delimiter (isLong : Bool) : List Char := if isLong then ['"', '"', '"'] else ['"']

/-- The text before the first delimiter that is not escaped, and the text after it. -/
def splitAtClose (close : List Char) : List Char → Option (List Char × List Char)
  | [] => none
  | c :: rest =>
    if close.isPrefixOf (c :: rest) then some ([], (c :: rest).drop close.length)
    else if c = '\\' then
      match rest with
      | [] => none
      | d :: rest =>
        (splitAtClose close rest).map fun (content, after) => (c :: d :: content, after)
    else (splitAtClose close rest).map fun (content, after) => (c :: content, after)

theorem splitAtClose_shrinks (close cs : List Char) {content after : List Char}
    (h : splitAtClose close cs = some (content, after)) : after.length ≤ cs.length := by
  fun_induction splitAtClose close cs generalizing content after with
  | case1 => cases h
  | case2 c rest hclose =>
    cases h
    rw [List.length_drop]
    omega
  | case3 => cases h
  | case4 d rest _ ih =>
    obtain ⟨⟨content', after'⟩, hsplit, heq⟩ := Option.map_eq_some_iff.1 h
    cases heq
    have := ih hsplit
    simp only [List.length_cons]
    omega
  | case5 c rest _ _ ih =>
    obtain ⟨⟨content', after'⟩, hsplit, heq⟩ := Option.map_eq_some_iff.1 h
    cases heq
    have := ih hsplit
    simp only [List.length_cons]
    omega

/-- The lexemes of a source; none if a literal is left open. -/
def scan : List Char → Option (List Lexeme)
  | [] => some []
  | c :: rest =>
    if c = '"' then
      let isLong := (delimiter true).isPrefixOf (c :: rest)
      match _split : splitAtClose (delimiter isLong)
          ((c :: rest).drop (delimiter isLong).length) with
      | none => none
      | some (content, after) => (scan after).map (.literal isLong content :: ·)
    else (scan rest).map (.code c :: ·)
termination_by cs => cs.length
decreasing_by
  · have := splitAtClose_shrinks _ _ _split
    have hlen : 1 ≤ (delimiter isLong).length := by
      unfold delimiter
      split <;> decide
    rw [List.length_drop, List.length_cons] at this
    simp only [List.length_cons]
    omega
  · simp

/-- The lexeme without what a literal says. -/
def erased : Lexeme → Lexeme
  | code c => code c
  | literal isLong _ => literal isLong []

/-- The lexemes of a source without what its literals say. -/
def skeleton (cs : List Char) : Option (List Lexeme) := (scan cs).map (·.map erased)

/-! ## Texts that end no literal -/

/-- Every double quote and every backslash of the text is escaped. -/
inductive Inert : List Char → Prop
  | nil : Inert []
  | plain {c : Char} {cs : List Char} (hquote : c ≠ '"') (hslash : c ≠ '\\') (h : Inert cs) :
    Inert (c :: cs)
  | escaped (c : Char) {cs : List Char} (h : Inert cs) : Inert ('\\' :: c :: cs)

namespace Inert

theorem append {a b : List Char} (ha : Inert a) (hb : Inert b) : Inert (a ++ b) := by
  induction ha with
  | nil => exact hb
  | plain hquote hslash _ ih => exact plain hquote hslash ih
  | escaped c _ ih => exact escaped c ih

theorem flatMap {α : Type} {f : α → List Char} (hf : ∀ a, Inert (f a)) (xs : List α) :
    Inert (xs.flatMap f) := by
  induction xs with
  | nil => exact nil
  | cons x xs ih => exact (hf x).append ih

end Inert

section Close

variable (isLong : Bool) (rest : List Char)

theorem isPrefixOf_delimiter_of_ne {c : Char} (hc : c ≠ '"') :
    (delimiter isLong).isPrefixOf (c :: rest) = false := by
  cases isLong <;> simp [delimiter, List.isPrefixOf, Ne.symm hc]

theorem splitAtClose_delimiter :
    splitAtClose (delimiter isLong) (delimiter isLong ++ rest) = some ([], rest) := by
  rw [splitAtClose.eq_def]
  cases isLong <;> simp [delimiter, List.isPrefixOf]

theorem splitAtClose_plain {c : Char} (hquote : c ≠ '"') (hslash : c ≠ '\\') :
    splitAtClose (delimiter isLong) (c :: rest) =
      (splitAtClose (delimiter isLong) rest).map fun p => (c :: p.1, p.2) := by
  rw [splitAtClose.eq_def]
  simp only [isPrefixOf_delimiter_of_ne isLong rest hquote, hslash, Bool.false_eq_true, ↓reduceIte]

theorem splitAtClose_escaped (c : Char) :
    splitAtClose (delimiter isLong) ('\\' :: c :: rest) =
      (splitAtClose (delimiter isLong) rest).map fun p => ('\\' :: c :: p.1, p.2) := by
  rw [splitAtClose.eq_def]
  simp only [isPrefixOf_delimiter_of_ne isLong (c :: rest) (show '\\' ≠ '"' by decide),
    Bool.false_eq_true, ↓reduceIte]

/-- **An inert text is the whole content** of the literal that it stands in. -/
theorem splitAtClose_inert {body : List Char} (h : Inert body) :
    splitAtClose (delimiter isLong) (body ++ (delimiter isLong ++ rest)) = some (body, rest) := by
  induction h with
  | nil => exact splitAtClose_delimiter isLong rest
  | plain hquote hslash _ ih =>
    rw [List.cons_append, splitAtClose_plain isLong _ hquote hslash, ih]
    rfl
  | escaped c _ ih =>
    rw [List.cons_append, List.cons_append, splitAtClose_escaped, ih]
    rfl

/-- Not even the front of an inert text ends the literal that it stands in. -/
theorem splitAtClose_eq_none {front back : List Char} (h : Inert (front ++ back)) :
    splitAtClose (delimiter isLong) front = none := by
  generalize hbody : front ++ back = body at h
  induction h generalizing front with
  | nil =>
    rw [(List.append_eq_nil_iff.1 hbody).1, splitAtClose]
  | plain hquote hslash _ ih =>
    cases front with
    | nil => rw [splitAtClose]
    | cons c front =>
      obtain ⟨rfl, hrest⟩ := List.cons.inj hbody
      rw [splitAtClose_plain isLong _ hquote hslash, ih hrest, Option.map_none]
  | escaped c _ ih =>
    match front with
    | [] => rw [splitAtClose]
    | [d] =>
      obtain ⟨rfl, -⟩ := List.cons.inj hbody
      cases isLong <;> simp [splitAtClose, delimiter, List.isPrefixOf]
    | d :: e :: front =>
      obtain ⟨rfl, htail⟩ := List.cons.inj hbody
      obtain ⟨rfl, hrest⟩ := List.cons.inj htail
      rw [splitAtClose_escaped, ih hrest, Option.map_none]

end Close

/-! ## Reading code and literals off the front -/

theorem scan_code {c : Char} (hc : c ≠ '"') (rest : List Char) :
    scan (c :: rest) = (scan rest).map (.code c :: ·) := by
  rw [scan]
  simp only [hc, ↓reduceIte]

/-- A text without double quotes is code. -/
theorem scan_unquoted {cs : List Char} (h : '"' ∉ cs) (rest : List Char) :
    scan (cs ++ rest) = (scan rest).map (cs.map .code ++ ·) := by
  induction cs with
  | nil => exact Option.map_id'.symm
  | cons c cs ih =>
    rw [List.mem_cons, not_or] at h
    rw [List.cons_append, scan_code (Ne.symm h.1), ih h.2, Option.map_map]
    rfl

theorem scan_quote (isLong : Bool) (rest : List Char) {content after : List Char}
    (hlong : (delimiter true).isPrefixOf ('"' :: rest) = isLong)
    (hsplit : splitAtClose (delimiter isLong) (('"' :: rest).drop (delimiter isLong).length) =
      some (content, after)) :
    scan ('"' :: rest) = (scan after).map (.literal isLong content :: ·) := by
  subst hlong
  rw [scan]
  simp only [↓reduceIte]
  split
  · next hnone =>
    rw [hsplit] at hnone
    cases hnone
  · next hsome =>
    rw [hsplit] at hsome
    cases hsome
    rfl

theorem scan_long {body : List Char} (h : Inert body) (rest : List Char) :
    scan (delimiter true ++ (body ++ (delimiter true ++ rest))) =
      (scan rest).map (.literal true body :: ·) :=
  scan_quote true _ rfl (splitAtClose_inert true rest h)

/-- The front of an inert text leaves the literal open that it stands in. -/
theorem scan_eq_none {front back : List Char} (h : Inert (front ++ back)) :
    scan ('"' :: front) = none := by
  have hshort : (delimiter true).isPrefixOf ('"' :: front) = false := by
    cases front with
    | nil => rfl
    | cons c front =>
      have hc : c ≠ '"' := by
        rintro rfl
        cases h with
        | plain hquote _ _ => exact hquote rfl
      simp [delimiter, List.isPrefixOf, Ne.symm hc]
  have hopen : splitAtClose (delimiter false) (('"' :: front).drop (delimiter false).length) =
      none := splitAtClose_eq_none false h
  rw [scan]
  simp only [↓reduceIte]
  split
  · rfl
  · next hsome =>
    rw [hshort, hopen] at hsome
    cases hsome

/-- A literal between single double quotes, with an inert text in it. What follows does not begin
with a double quote, as the empty literal would open a long one then. -/
theorem scan_short {body : List Char} (h : Inert body) {rest : List Char}
    (hrest : rest.head? ≠ some '"') :
    scan ('"' :: (body ++ '"' :: rest)) = (scan rest).map (.literal false body :: ·) := by
  have hshort : (delimiter true).isPrefixOf ('"' :: (body ++ '"' :: rest)) = false := by
    cases h with
    | nil =>
      cases rest with
      | nil => rfl
      | cons d rest =>
        have hd : d ≠ '"' := fun heq => hrest (congrArg some heq)
        simp [delimiter, List.isPrefixOf, Ne.symm hd]
    | plain hquote _ _ => simp [delimiter, List.isPrefixOf, Ne.symm hquote]
    | escaped c _ => simp [delimiter, List.isPrefixOf]
  exact scan_quote false _ hshort (splitAtClose_inert false rest h)

theorem skeleton_unquoted {cs : List Char} (h : '"' ∉ cs) (rest : List Char) :
    skeleton (cs ++ rest) = (skeleton rest).map (cs.map .code ++ ·) := by
  have herased : (cs.map code).map erased = cs.map code := by
    rw [List.map_map]
    rfl
  unfold skeleton
  rw [scan_unquoted h, Option.map_map, Option.map_map]
  congr 1
  funext lexemes
  exact List.map_append.trans (congrArg (· ++ _) herased)

theorem skeleton_long {body : List Char} (h : Inert body) (rest : List Char) :
    skeleton (delimiter true ++ (body ++ (delimiter true ++ rest))) =
      (skeleton rest).map (.literal true [] :: ·) := by
  unfold skeleton
  rw [scan_long h, Option.map_map, Option.map_map]
  rfl

theorem skeleton_short {body : List Char} (h : Inert body) {rest : List Char}
    (hrest : rest.head? ≠ some '"') :
    skeleton ('"' :: (body ++ '"' :: rest)) = (skeleton rest).map (.literal false [] :: ·) := by
  unfold skeleton
  rw [scan_short h hrest, Option.map_map, Option.map_map]
  rfl

/-! ## Quoted strings -/

theorem inert_escapeChar (c : Char) : Inert (Json.escapeChar c) := by
  have hhex : ∀ n < 16, Json.hexDigit n ≠ '"' ∧ Json.hexDigit n ≠ '\\' := by decide
  unfold Json.escapeChar
  split_ifs with hquote hslash _ _ _ _ _ hcontrol
  iterate 7 exact .escaped _ .nil
  · have hhigh := hhex (c.toNat / 16) (by omega)
    have hlow := hhex (c.toNat % 16) (by omega)
    exact .escaped _ (.plain (by decide) (by decide) (.plain (by decide) (by decide)
      (.plain hhigh.1 hhigh.2 (.plain hlow.1 hlow.2 .nil))))
  · exact .plain hquote hslash .nil

theorem inert_escape (cs : List Char) : Inert (Json.escape cs) := Inert.flatMap inert_escapeChar cs

end Lexeme

end ToolScaffold.Server
