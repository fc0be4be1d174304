import ToolScaffold.Proofs.Json.Scalar
import ToolScaffold.Proofs.Server.Lexeme

/-!
# What literals say

`decode?` reads a literal between double quotes by the rules of the language of the generated
server: a backslash and a letter stand for one character, a backslash, the letter `u` and four
hexadecimal digits for the character of that number, and every other character for itself. The first
double quote that is not escaped ends the literal, and a line may not end inside of it. Escapes that
nothing here writes are refused.

`decode?_literal`: a text that was written as a literal is what the literal says. `says_literal`
adds what the written form is like: it stands between double quotes, every double quote inside of
them is escaped, and there are no control characters in it.
-/

namespace ToolScaffold.Server

open Json (escape escapeChar hexDigit quadValue?)

/-- The character that a backslash and this one stand for. -/
def unescaped? (c : Char) : Option Char :=
  if c = '\\' ∨ c = '"' ∨ c = '\'' then some c
  else if c = 'b' then some '\x08'
  else if c = 'f' then some '\x0c'
  else if c = 'n' then some '\n'
  else if c = 'r' then some '\r'
  else if c = 't' then some '\t'
  else none

/-- The character of a number, unless the number is that of half a character. -/
def numbered? (n : Nat) : Option Char := if n.isValidChar then some (Char.ofNat n) else none

/-- What a literal says after its first double quote; the last one has to end it. -/
def content? : List Char → Option (List Char)
  | [] => none
  | '"' :: rest => if rest.isEmpty then some [] else none
  | '\\' :: 'u' :: a :: b :: c :: d :: rest =>
    ((quadValue? a b c d).bind numbered?).bind fun e => (content? rest).map (e :: ·)
  | '\\' :: c :: rest => (unescaped? c).bind fun e => (content? rest).map (e :: ·)
  | c :: rest => if c = '\\' ∨ c = '\n' ∨ c = '\r' then none else (content? rest).map (c :: ·)

/-- The text that a literal stands for. -/
def decode? (literal : String) : Option String :=
  match literal.toList with
  | '"' :: rest => (content? rest).map String.ofList
  | _ => none

/-! ## One character -/

section Steps

variable {c : Char} (rest : List Char)

theorem content?_plain (hquote : c ≠ '"') (hslash : c ≠ '\\') (hn : c ≠ '\n') (hr : c ≠ '\r') :
    content? (c :: rest) = (content? rest).map (c :: ·) := by
  rw [content?.eq_def]
  split <;> simp_all

theorem content?_escaped {d : Char} (hd : unescaped? d = some c) :
    content? ('\\' :: d :: rest) = (content? rest).map (c :: ·) := by
  have hu : d ≠ 'u' := by
    rintro rfl
    cases hd
  rw [content?.eq_def]
  split
  · next heq => cases heq
  · next heq => cases heq
  · next heq => exact absurd (List.cons.inj (List.cons.inj heq).2).1 hu
  · next heq =>
    obtain ⟨rfl, rfl⟩ := List.cons.inj (List.cons.inj heq).2
    rw [hd, Option.bind_some]
  · next hslash heq =>
    obtain ⟨rfl, rfl⟩ := List.cons.inj heq
    exact absurd rfl (hslash _ _ rfl)

theorem content?_numbered (hc : c.toNat < 0x20) :
    content? ('\\' :: 'u' :: '0' :: '0' :: hexDigit (c.toNat / 16) :: hexDigit (c.toNat % 16) ::
      rest) = (content? rest).map (c :: ·) := by
  have hvalid : c.toNat.isValidChar := c.valid
  have hnumber : numbered? c.toNat = some c := by
    rw [numbered?, if_pos hvalid, Char.ofNat_toNat]
  rw [content?, Json.Reader.quadValue?_hexDigit (by omega), Option.bind_some, hnumber,
    Option.bind_some]

theorem content?_escapeChar (c : Char) :
    content? (escapeChar c ++ rest) = (content? rest).map (c :: ·) := by
  unfold escapeChar
  split_ifs with hquote hslash hb hf hn hr ht hcontrol
  · exact content?_escaped rest (by rw [hquote]; decide)
  · exact content?_escaped rest (by rw [hslash]; decide)
  · exact content?_escaped rest (by rw [hb]; decide)
  · exact content?_escaped rest (by rw [hf]; decide)
  · exact content?_escaped rest (by rw [hn]; decide)
  · exact content?_escaped rest (by rw [hr]; decide)
  · exact content?_escaped rest (by rw [ht]; decide)
  · exact content?_numbered rest hcontrol
  · exact content?_plain rest hquote hslash hn hr

end Steps

/-! ## The whole literal -/

/-- Control characters are written by letter or by number. -/
theorem forall_mem_escapeChar (c : Char) : ∀ d ∈ escapeChar c, 0x20 ≤ d.toNat := by
  have hhex : ∀ n < 16, 0x20 ≤ (hexDigit n).toNat := by decide
  unfold escapeChar
  split_ifs with hquote hslash hb hf hn hr ht hcontrol
  iterate 7 simp
  · have hhigh := hhex (c.toNat / 16) (by omega)
    have hlow := hhex (c.toNat % 16) (by omega)
    simp [hhigh, hlow]
  · intro d hd
    rw [List.mem_singleton.1 hd]
    exact Nat.le_of_not_lt hcontrol

theorem toList_literal (s : String) :
    (literal s).toList = '"' :: escape s.toList ++ ['"'] := by
  rw [literal, Json.quote, String.toList_ofList, Json.stringChars]

/-- A literal has no control characters. -/
theorem le_toNat_of_mem_literal {s : String} {c : Char} (h : c ∈ (literal s).toList) :
    0x20 ≤ c.toNat := by
  rw [toList_literal, List.mem_append, List.mem_cons, List.mem_singleton] at h
  rcases h with (rfl | hinside) | rfl
  · decide
  · obtain ⟨d, -, hd⟩ := List.mem_flatMap.1 hinside
    exact forall_mem_escapeChar d c hd
  · decide

/-- A literal stands on one line. -/
theorem newline_not_mem_literal (s : String) : '\n' ∉ (literal s).toList :=
  fun hmem => absurd (le_toNat_of_mem_literal hmem) (by decide)

theorem content?_escape (cs : List Char) : content? (escape cs ++ ['"']) = some cs := by
  induction cs with
  | nil => rfl
  | cons c cs ih =>
    rw [escape, List.flatMap_cons, List.append_assoc, content?_escapeChar, ← escape, ih]
    rfl

/-- **A literal says the text** that it was written for. -/
theorem decode?_literal (s : String) : decode? (literal s) = some s := by
  rw [decode?, toList_literal, List.cons_append]
  simp only [content?_escape, Option.map_some, String.ofList_toList]

/-! ## Inside of the double quotes -/

/-- Whether the character behind the text is escaped: the text ends with a backslash that is not
escaped itself. -/
def escapesNext (cs : List Char) : Bool :=
  cs.foldl (fun escaped c => !escaped && c = '\\') false

theorem escapesNext_plain {c : Char} (hslash : c ≠ '\\') (cs : List Char) :
    escapesNext (c :: cs) = escapesNext cs := by
  simp [escapesNext, hslash]

theorem escapesNext_escaped (c : Char) (cs : List Char) :
    escapesNext ('\\' :: c :: cs) = escapesNext cs := by
  simp [escapesNext]

/-- An inert text escapes nothing behind it. -/
theorem escapesNext_of_inert {cs : List Char} (h : Lexeme.Inert cs) : escapesNext cs = false := by
  induction h with
  | nil => rfl
  | plain _ hslash _ ih => rw [escapesNext_plain hslash, ih]
  | escaped c _ ih => rw [escapesNext_escaped, ih]

/-- Every double quote in an inert text is escaped. -/
theorem escapesNext_of_quote {front back : List Char} (h : Lexeme.Inert (front ++ '"' :: back)) :
    escapesNext front = true := by
  generalize hbody : front ++ '"' :: back = body at h
  induction h generalizing front with
  | nil => cases List.append_eq_nil_iff.1 hbody |>.2
  | plain hquote hslash _ ih =>
    cases front with
    | nil => exact absurd (List.cons.inj hbody).1.symm hquote
    | cons c front =>
      obtain ⟨rfl, hrest⟩ := List.cons.inj hbody
      rw [escapesNext_plain hslash, ih hrest]
  | escaped c _ ih =>
    match front with
    | [] => exact absurd (List.cons.inj hbody).1 (by decide)
    | [d] =>
      rw [(List.cons.inj hbody).1]
      rfl
    | d :: e :: front =>
      obtain ⟨rfl, htail⟩ := List.cons.inj hbody
      rw [escapesNext_escaped, ih (List.cons.inj htail).2]

/-- A literal on one line that says a text. -/
structure Says (lit s : String) : Prop where
  quoted : ∃ body, lit.toList = '"' :: body ++ ['"'] ∧ escapesNext body = false ∧
    ∀ front back, body = front ++ '"' :: back → escapesNext front = true
  no_control : ∀ c ∈ lit.toList, 0x20 ≤ c.toNat
  decode?_eq : decode? lit = some s

/-- **A text that is written as a literal** stands between double quotes, with no other double quote
that is not escaped, and with no control character; read as a literal, it says the text. -/
theorem says_literal (s : String) : Says (literal s) s where
  quoted := by
    have hinert : Lexeme.Inert (escape s.toList) := Lexeme.inert_escape s.toList
    refine ⟨escape s.toList, toList_literal s, escapesNext_of_inert hinert, ?_⟩
    intro front back hsplit
    rw [hsplit] at hinert
    exact escapesNext_of_quote hinert
  no_control _ := le_toNat_of_mem_literal
  decode?_eq := decode?_literal s

end ToolScaffold.Server
