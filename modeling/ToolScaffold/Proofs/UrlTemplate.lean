import Mathlib.Data.List.Infix
import ToolScaffold.Proofs.Distinct
import ToolScaffold.UrlTemplate

/-!
# The parts of an address template

`parsed_ofChars` says what the parts of a text are, without the bookkeeping of the scan: a
placeholder stands for itself in braces, and an opening brace stands for itself where no placeholder
begins. All that is known about the parts follows by induction on `Parsed`: put together they are
the text (`flatMap_chars_ofChars`), and the names of placeholders hold no brace
(`isName_of_mem_ofChars`).
-/

namespace ToolScaffold

namespace Piece

/-- What can stand between the braces of a placeholder. -/
structure IsName (name : List Char) : Prop where
  ne_nil : name ≠ []
  open_not_mem : '\x7b' ∉ name
  close_not_mem : '\x7d' ∉ name

/-- The parts of a text. -/
inductive Parsed : List Char → List Piece → Prop where
  | nil : Parsed [] []
  | char {c : Char} {cs : List Char} {ps : List Piece} (hc : c ≠ '\x7b') (h : Parsed cs ps) :
    Parsed (c :: cs) (char c :: ps)
  | stray {cs : List Char} {ps : List Piece}
    (hstray : ∀ name, IsName name → ¬(placeholder name).chars <+: '\x7b' :: cs)
    (h : Parsed cs ps) : Parsed ('\x7b' :: cs) (char '\x7b' :: ps)
  | placeholder {name cs : List Char} {ps : List Piece} (hname : IsName name)
    (h : Parsed cs ps) : Parsed ((placeholder name).chars ++ cs) (placeholder name :: ps)

/-! ## The scan -/

section Steps

variable {opened : Option (List Char)} {name : List Char} {c : Char} {rest : List Char}

theorem scan_nil : scan opened [] = scan.unfinished opened := by
  rw [scan.eq_def]

theorem scan_open :
    scan opened ('\x7b' :: rest) = scan.unfinished opened ++ scan (some []) rest := by
  rw [scan.eq_def]
  exact if_pos rfl

theorem scan_outside (hopen : c ≠ '\x7b') : scan none (c :: rest) = char c :: scan none rest := by
  rw [scan.eq_def]
  exact if_neg hopen

theorem scan_inside (hopen : c ≠ '\x7b') (hclose : c ≠ '\x7d') :
    scan (some name) (c :: rest) = scan (some (c :: name)) rest := by
  rw [scan.eq_def]
  exact (if_neg hopen).trans (if_pos hclose)

theorem scan_close_nil :
    scan (some []) ('\x7d' :: rest) = char '\x7b' :: char '\x7d' :: scan none rest := by
  rw [scan.eq_def]
  rfl

theorem scan_close (hne : name ≠ []) :
    scan (some name) ('\x7d' :: rest) = placeholder name.reverse :: scan none rest := by
  rw [scan.eq_def]
  dsimp only
  rw [if_neg (by decide), if_neg (by simp), if_neg (by simpa using hne)]

end Steps

/-- What has been read since the last opening brace, with the brace. -/
def pending : Option (List Char) → List Char
  | none => []
  | some name => '\x7b' :: name.reverse

/-- No brace has been read since the last opening brace. -/
def Braceless (opened : Option (List Char)) : Prop :=
  ∀ name ∈ opened, '\x7b' ∉ name ∧ '\x7d' ∉ name

theorem braceless_none : Braceless none := fun _ h => by cases h

theorem braceless_nil : Braceless (some []) := by
  intro name h
  cases h
  exact ⟨List.not_mem_nil, List.not_mem_nil⟩

theorem Braceless.cons {name : List Char} (h : Braceless (some name)) {c : Char}
    (hopen : c ≠ '\x7b') (hclose : c ≠ '\x7d') : Braceless (some (c :: name)) := by
  intro longer heq
  cases heq
  obtain ⟨hnameOpen, hnameClose⟩ := h name rfl
  exact ⟨List.not_mem_cons_of_ne_of_not_mem (Ne.symm hopen) hnameOpen,
    List.not_mem_cons_of_ne_of_not_mem (Ne.symm hclose) hnameClose⟩

/-- A placeholder begins with an opening brace. -/
theorem not_prefix_cons_of_ne {c : Char} (hc : c ≠ '\x7b') (name rest : List Char) :
    ¬(placeholder name).chars <+: c :: rest :=
  fun hstarts => hc (List.cons_prefix_cons.1 hstarts).1.symm

/-- A name is not closed before the text it is in ends or another brace is opened. -/
theorem not_prefix_of_unclosed {name front rest : List Char} (hname : '\x7b' ∉ name)
    (hfront : '\x7d' ∉ front) (hrest : ∀ c ∈ rest.head?, c = '\x7b') :
    ¬name ++ ['\x7d'] <+: front ++ rest := by
  induction front generalizing name with
  | nil =>
    intro hstarts
    obtain ⟨d, tail, hd⟩ : ∃ d tail, name ++ ['\x7d'] = d :: tail :=
      List.exists_cons_of_ne_nil (by simp)
    have hmem : d ∈ name ++ ['\x7d'] := hd ▸ List.mem_cons_self
    have hne : d ≠ '\x7b' := by
      rintro rfl
      simp [hname] at hmem
    rw [hd, List.nil_append] at hstarts
    cases rest with
    | nil => cases List.prefix_nil.1 hstarts
    | cons c rest =>
      have hc := hrest c rfl
      exact hne ((List.cons_prefix_cons.1 hstarts).1.trans hc)
  | cons c front ih =>
    intro hstarts
    rw [List.mem_cons, not_or] at hfront
    cases name with
    | nil => exact hfront.1 (List.cons_prefix_cons.1 hstarts).1
    | cons d name =>
      rw [List.mem_cons, not_or] at hname
      exact ih hname.2 hfront.2 (List.cons_prefix_cons.1 hstarts).2

theorem Parsed.map_char {front rest : List Char} {ps : List Piece} (hfront : '\x7b' ∉ front)
    (h : Parsed rest ps) : Parsed (front ++ rest) (front.map .char ++ ps) := by
  induction front with
  | nil => exact h
  | cons c front ih =>
    rw [List.mem_cons, not_or] at hfront
    exact .char (Ne.symm hfront.1) (ih hfront.2)

/-- An opening brace that is followed by another one, or by none, stands for itself. -/
theorem Parsed.unfinished {opened : Option (List Char)} (hopened : Braceless opened)
    {rest : List Char} {ps : List Piece} (hrest : ∀ c ∈ rest.head?, c = '\x7b')
    (h : Parsed rest ps) : Parsed (pending opened ++ rest) (scan.unfinished opened ++ ps) := by
  cases opened with
  | none => exact h
  | some name =>
    obtain ⟨hopen, hclose⟩ := hopened name rfl
    refine .stray (fun other hother hstarts => ?_)
      (.map_char (fun hmem => hopen (List.mem_reverse.1 hmem)) h)
    have hinside := (List.cons_prefix_cons.1 hstarts).2
    exact not_prefix_of_unclosed hother.open_not_mem
      (fun hmem => hclose (List.mem_reverse.1 hmem)) hrest hinside

theorem parsed_scan {opened : Option (List Char)} (hopened : Braceless opened) (cs : List Char) :
    Parsed (pending opened ++ cs) (scan opened cs) := by
  induction cs generalizing opened with
  | nil =>
    have h := Parsed.unfinished hopened (fun _ h => by cases h) .nil
    simpa only [List.append_nil, scan_nil] using h
  | cons c rest ih =>
    by_cases hopen : c = '\x7b'
    · rw [hopen, scan_open]
      exact .unfinished hopened (fun c hc => (Option.some.inj hc).symm) (ih braceless_nil)
    · cases opened with
      | none =>
        rw [scan_outside hopen]
        exact .char hopen (ih braceless_none)
      | some name =>
        by_cases hclose : c = '\x7d'
        · rw [hclose]
          by_cases hne : name = []
          · rw [hne, scan_close_nil]
            refine .stray (fun other hother hstarts => ?_) (.char (by decide) (ih braceless_none))
            obtain ⟨d, tail, rfl⟩ := List.exists_cons_of_ne_nil hother.ne_nil
            have hinside := (List.cons_prefix_cons.1 hstarts).2
            have hd := (List.cons_prefix_cons.1 hinside).1
            exact hother.close_not_mem (hd ▸ List.mem_cons_self)
          · rw [scan_close hne]
            have hname : IsName name.reverse := by
              obtain ⟨hnameOpen, hnameClose⟩ := hopened name rfl
              exact ⟨by simpa using hne, by simpa using hnameOpen, by simpa using hnameClose⟩
            have h := Parsed.placeholder hname (ih braceless_none)
            rwa [chars, List.append_assoc] at h
        · rw [scan_inside hopen hclose]
          have h := ih (hopened.cons hopen hclose)
          rwa [pending, List.reverse_cons, List.cons_append, List.append_assoc] at h

/-- **The parts of a text** are its placeholders and the characters between them. -/
theorem parsed_ofChars (cs : List Char) : Parsed cs (ofChars cs) :=
  parsed_scan braceless_none cs

/-! ## Consequences -/

theorem Parsed.flatMap_chars {cs : List Char} {ps : List Piece} (h : Parsed cs ps) :
    ps.flatMap chars = cs := by
  induction h with
  | nil => rfl
  | char hc h ih => rw [List.flatMap_cons, ih, chars, List.singleton_append]
  | stray hstray h ih => rw [List.flatMap_cons, ih, chars, List.singleton_append]
  | placeholder hname h ih => rw [List.flatMap_cons, ih]

theorem Parsed.isName {cs : List Char} {ps : List Piece} (h : Parsed cs ps) {name : List Char}
    (hmem : .placeholder name ∈ ps) : IsName name := by
  induction h with
  | nil => cases hmem
  | char hc h ih => exact ih ((List.mem_cons.1 hmem).resolve_left (by simp))
  | stray hstray h ih => exact ih ((List.mem_cons.1 hmem).resolve_left (by simp))
  | placeholder hname h ih =>
    rcases List.mem_cons.1 hmem with heq | hmem
    · cases heq
      exact hname
    · exact ih hmem

/-- The parts put together are the text. -/
theorem flatMap_chars_ofChars (cs : List Char) : (ofChars cs).flatMap chars = cs :=
  (parsed_ofChars cs).flatMap_chars

theorem mem_filterMap_name?_iff {name : List Char} {ps : List Piece} :
    name ∈ ps.filterMap name? ↔ placeholder name ∈ ps := by
  rw [List.mem_filterMap]
  constructor
  · rintro ⟨piece, hpiece, hname⟩
    cases piece with
    | char c => cases hname
    | placeholder other =>
      cases hname
      exact hpiece
  · intro h
    exact ⟨placeholder name, h, rfl⟩

theorem isName_of_mem_ofChars {cs name : List Char} (h : placeholder name ∈ ofChars cs) :
    IsName name :=
  (parsed_ofChars cs).isName h

/-- Two placeholders at the same place of a text are the same. -/
theorem IsName.eq_of_prefix_append {name other rest : List Char} (hname : IsName name)
    (hother : IsName other)
    (h : (placeholder name).chars <+: (placeholder other).chars ++ rest) : name = other := by
  have hclosed := hname.close_not_mem
  have hotherClosed := hother.close_not_mem
  have hinside : name ++ ['\x7d'] <+: other ++ ['\x7d'] ++ rest := (List.cons_prefix_cons.1 h).2
  rw [List.append_assoc, List.singleton_append] at hinside
  clear h hname hother
  induction name generalizing other with
  | nil =>
    cases other with
    | nil => rfl
    | cons c other =>
      rw [List.mem_cons, not_or] at hotherClosed
      exact absurd (List.cons_prefix_cons.1 hinside).1 hotherClosed.1
  | cons d name ih =>
    rw [List.mem_cons, not_or] at hclosed
    cases other with
    | nil => exact absurd (List.cons_prefix_cons.1 hinside).1.symm hclosed.1
    | cons c other =>
      rw [List.mem_cons, not_or] at hotherClosed
      obtain ⟨hhead, htail⟩ := List.cons_prefix_cons.1 hinside
      rw [hhead, ih hclosed.2 hotherClosed.2 htail]

end Piece

namespace UrlTemplate

variable {text key : String} {params : List String}

/-- The names of the placeholders of a text, from left to right and as often as they occur. -/
def occurrences (text : String) : List String :=
  ((Piece.ofChars text.toList).filterMap Piece.name?).map String.ofList

theorem bound_eq_distinct (text : String) (params : List String) :
    (parse text).bound params =
      distinct ((occurrences text).filter fun name => params.contains name) :=
  (distinct_filter _ _).symm

theorem unbound_eq_distinct (text : String) (params : List String) :
    (parse text).unbound params =
      distinct ((occurrences text).filter fun name => !params.contains name) :=
  (distinct_filter _ _).symm

theorem mem_placeholders_iff :
    key ∈ (parse text).placeholders ↔ .placeholder key.toList ∈ Piece.ofChars text.toList := by
  rw [parse, mem_distinct, List.mem_map]
  constructor
  · rintro ⟨name, hname, rfl⟩
    rw [String.toList_ofList]
    exact Piece.mem_filterMap_name?_iff.1 hname
  · intro h
    exact ⟨key.toList, Piece.mem_filterMap_name?_iff.2 h, String.ofList_toList⟩

theorem mem_bound_iff : key ∈ (parse text).bound params ↔
    .placeholder key.toList ∈ Piece.ofChars text.toList ∧ key ∈ params := by
  rw [bound, List.mem_filter, mem_placeholders_iff, List.contains_iff_mem]

theorem nodup_bound : ((parse text).bound params).Nodup :=
  (nodup_distinct _).filter _

end UrlTemplate

end ToolScaffold
