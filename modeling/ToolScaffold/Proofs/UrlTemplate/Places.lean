import Mathlib.Data.Nat.Find
import ToolScaffold.Proofs.UrlTemplate

/-!
# Where placeholders stand

An address is scanned once, from left to right. `lists_iff`: its placeholders are the names that
stand in braces somewhere in it, each once, in the order of the first places where they do.

The scan misses none of them, because names in braces do not overlap: a name holds no brace, so two
of them begin at one place only if they are the same (`IsName.eq_of_prefix_append`), and none begins
inside of another one (`IsName.not_prefix_drop`). So the first place of a name only moves along when
a part is put in front of a text (`FirstAt.append`), and with it the order of the names
(`Parsed.ordered`).
-/

namespace ToolScaffold

/-! ## First places -/

namespace Text

/-- The pattern stands at this place of the text, and at none before it. -/
structure FirstAt (pattern text : List Char) (i : Nat) : Prop where
  here : pattern <+: text.drop i
  not_before : ∀ j < i, ¬pattern <+: text.drop j

/-- The first place of the one pattern is before that of the other one. -/
def Before (text pattern other : List Char) : Prop :=
  ∃ i j, FirstAt pattern text i ∧ FirstAt other text j ∧ i < j

section First

variable {pattern other text front : List Char} {i j : Nat}

theorem FirstAt.exists_of_infix (h : pattern <:+: text) : ∃ i, FirstAt pattern text i := by
  classical
  have hplace : ∃ i, pattern <+: text.drop i := by
    obtain ⟨front, back, rfl⟩ := h
    refine ⟨front.length, ?_⟩
    rw [List.append_assoc, List.drop_left]
    exact List.prefix_append pattern back
  exact ⟨Nat.find hplace, Nat.find_spec hplace, fun j hj => Nat.find_min hplace hj⟩

theorem FirstAt.unique (h : FirstAt pattern text i) (h' : FirstAt pattern text j) : i = j := by
  rcases Nat.lt_trichotomy i j with hlt | heq | hlt
  · exact absurd h.here (h'.not_before i hlt)
  · exact heq
  · exact absurd h'.here (h.not_before j hlt)

theorem FirstAt.zero (h : pattern <+: text) : FirstAt pattern text 0 where
  here := h
  not_before _ hj := absurd hj (Nat.not_lt_zero _)

/-- A first place moves along if the pattern does not begin in what is put in front of the text. -/
theorem FirstAt.append (h : FirstAt pattern text i)
    (hfront : ∀ j < front.length, ¬pattern <+: (front ++ text).drop j) :
    FirstAt pattern (front ++ text) (front.length + i) where
  here := by
    rw [List.drop_length_add_append]
    exact h.here
  not_before j hj := by
    -- before the text the pattern does not stand, and in it not before its first place
    by_cases hinside : j < front.length
    · exact hfront j hinside
    · obtain ⟨k, rfl⟩ := Nat.exists_eq_add_of_le (Nat.le_of_not_lt hinside)
      rw [List.drop_length_add_append]
      exact h.not_before k (by omega)

theorem Before.append (h : Before text pattern other)
    (hpattern : ∀ j < front.length, ¬pattern <+: (front ++ text).drop j)
    (hother : ∀ j < front.length, ¬other <+: (front ++ text).drop j) :
    Before (front ++ text) pattern other := by
  obtain ⟨i, j, hi, hj, hlt⟩ := h
  exact ⟨_, _, hi.append hpattern, hj.append hother, Nat.add_lt_add_left hlt _⟩

theorem Before.asymm (h : Before text pattern other) : ¬Before text other pattern := by
  rintro ⟨j', i', hj', hi', hlt'⟩
  obtain ⟨i, j, hi, hj, hlt⟩ := h
  have hieq : i = i' := hi.unique hi'
  have hjeq : j = j' := hj.unique hj'
  omega

end First

end Text

open Text

namespace Piece

/-! ## Names in braces do not overlap -/

section Overlap

variable {name other : List Char} {j : Nat}

theorem not_prefix_drop_of_not_mem {d : Char} {front : List Char} (h : d ∉ front)
    (hj : j < front.length) (tail rest : List Char) : ¬d :: tail <+: (front ++ rest).drop j := by
  intro hstarts
  rw [List.drop_append_of_le_length (Nat.le_of_lt hj), List.drop_eq_getElem_cons hj,
    List.cons_append] at hstarts
  have hd : d = front[j] := (List.cons_prefix_cons.1 hstarts).1
  exact h (hd ▸ List.getElem_mem hj)

/-- No other name in braces begins where a name in braces does, or inside of it. -/
theorem IsName.not_prefix_drop (hname : IsName name) (hother : IsName other) (hne : name ≠ other)
    (rest : List Char) (hj : j < (placeholder other).chars.length) :
    ¬(placeholder name).chars <+: ((placeholder other).chars ++ rest).drop j := by
  cases j with
  | zero => exact fun hstarts => hne (hname.eq_of_prefix_append hother hstarts)
  | succ k =>
    have hopen : '\x7b' ∉ other ++ ['\x7d'] := by simp [hother.open_not_mem]
    have hk : k < (other ++ ['\x7d']).length := Nat.lt_of_succ_lt_succ hj
    exact not_prefix_drop_of_not_mem hopen hk (name ++ ['\x7d']) rest

end Overlap

/-! ## The names that are found -/

section Found

variable {name cs : List Char} {ps : List Piece}

/-- No name that stands in braces in a text is missed. -/
theorem Parsed.mem_of_infix (h : Parsed cs ps) (hname : IsName name)
    (hoccurs : (Piece.placeholder name).chars <:+: cs) : .placeholder name ∈ ps := by
  induction h with
  | nil => cases List.infix_nil.1 hoccurs
  | char hc h ih =>
    rcases List.infix_cons_iff.1 hoccurs with hstarts | hinside
    · exact absurd hstarts (not_prefix_cons_of_ne hc name _)
    · exact List.mem_cons_of_mem _ (ih hinside)
  | stray hstray h ih =>
    rcases List.infix_cons_iff.1 hoccurs with hstarts | hinside
    · exact absurd hstarts (hstray name hname)
    · exact List.mem_cons_of_mem _ (ih hinside)
  | @placeholder other cs ps hother h ih =>
    by_cases hne : name = other
    · rw [hne]
      exact List.mem_cons_self
    · -- a place of the name is behind the placeholder, as it is neither at its front nor inside
      obtain ⟨i, hi⟩ := FirstAt.exists_of_infix hoccurs
      have hbehind : (Piece.placeholder other).chars.length ≤ i := by
        by_contra hinside
        exact hname.not_prefix_drop hother hne cs (Nat.lt_of_not_le hinside) hi.here
      obtain ⟨k, rfl⟩ := Nat.exists_eq_add_of_le hbehind
      have hk := hi.here
      rw [List.drop_length_add_append] at hk
      exact List.mem_cons_of_mem _ (ih (hk.isInfix.trans (List.drop_suffix k cs).isInfix))

theorem Parsed.infix_of_mem (h : Parsed cs ps) (hmem : .placeholder name ∈ ps) :
    (Piece.placeholder name).chars <:+: cs := by
  obtain ⟨front, back, rfl⟩ := List.append_of_mem hmem
  rw [← h.flatMap_chars, List.flatMap_append, List.flatMap_cons, ← List.append_assoc]
  exact List.infix_append _ _ _

/-- **The names that are found** are those that stand in braces. -/
theorem Parsed.mem_distinct_iff (h : Parsed cs ps) : name ∈ distinct (ps.filterMap name?) ↔
    IsName name ∧ (Piece.placeholder name).chars <:+: cs := by
  rw [mem_distinct, mem_filterMap_name?_iff]
  exact ⟨fun hmem => ⟨h.isName hmem, h.infix_of_mem hmem⟩,
    fun ⟨hname, hoccurs⟩ => h.mem_of_infix hname hoccurs⟩

end Found

/-! ## Their order -/

section Order

variable {name text : List Char} {names : List (List Char)}

/-- Behind a character that begins no name in braces the order is kept. -/
theorem pairwise_before_cons {c : Char}
    (hc : ∀ name, IsName name → ¬(placeholder name).chars <+: c :: text)
    (hnames : ∀ name ∈ names, IsName name)
    (h : names.Pairwise fun name other =>
      Before text (placeholder name).chars (placeholder other).chars) :
    names.Pairwise fun name other =>
      Before (c :: text) (placeholder name).chars (placeholder other).chars := by
  have hfront : ∀ name ∈ names, ∀ j < [c].length,
      ¬(placeholder name).chars <+: ([c] ++ text).drop j := by
    intro name hname j hj
    obtain rfl : j = 0 := Nat.lt_one_iff.1 hj
    exact hc name (hnames name hname)
  exact h.imp_of_mem fun hmem hmem' hbefore => hbefore.append (hfront _ hmem) (hfront _ hmem')

/-- Behind a name in braces the order of all other names is kept, and that name comes first. -/
theorem pairwise_before_placeholder (hname : IsName name)
    (hnames : ∀ other ∈ names, IsName other ∧ (placeholder other).chars <:+: text)
    (h : names.Pairwise fun name other =>
      Before text (placeholder name).chars (placeholder other).chars) :
    (name :: names.filter (· ≠ name)).Pairwise fun a b =>
      Before ((placeholder name).chars ++ text) (placeholder a).chars (placeholder b).chars := by
  have hfront : ∀ other ∈ names.filter (· ≠ name), ∀ j < (placeholder name).chars.length,
      ¬(placeholder other).chars <+: ((placeholder name).chars ++ text).drop j := by
    intro other hother j hj
    obtain ⟨hmem, hne⟩ := List.mem_filter.1 hother
    exact (hnames other hmem).1.not_prefix_drop hname (of_decide_eq_true hne) text hj
  -- the name is at the front, and all others are behind it
  refine List.pairwise_cons.2 ⟨fun other hother => ?_, ?_⟩
  · obtain ⟨j, hj⟩ := FirstAt.exists_of_infix (hnames other (List.mem_filter.1 hother).1).2
    have hpos : 0 < (placeholder name).chars.length + j :=
      Nat.add_pos_left (List.length_pos_of_ne_nil (List.cons_ne_nil _ _)) j
    exact ⟨0, _, .zero (List.prefix_append _ _), hj.append (hfront other hother), hpos⟩
  · exact (h.filter _).imp_of_mem fun hmem hmem' hbefore =>
      hbefore.append (hfront _ hmem) (hfront _ hmem')

/-- **The order of the names** is that of their first places. -/
theorem Parsed.ordered {cs : List Char} {ps : List Piece} (h : Parsed cs ps) :
    (distinct (ps.filterMap name?)).Pairwise fun name other =>
      Before cs (Piece.placeholder name).chars (Piece.placeholder other).chars := by
  induction h with
  | nil => exact .nil
  | char hc h ih =>
    rw [List.filterMap_cons_none rfl]
    exact pairwise_before_cons (fun name _ => not_prefix_cons_of_ne hc name _)
      (fun name hmem => (h.mem_distinct_iff.1 hmem).1) ih
  | stray hstray h ih =>
    rw [List.filterMap_cons_none rfl]
    exact pairwise_before_cons hstray (fun name hmem => (h.mem_distinct_iff.1 hmem).1) ih
  | placeholder hname h ih =>
    rw [List.filterMap_cons_some (show name? (.placeholder _) = some _ from rfl), distinct]
    exact pairwise_before_placeholder hname (fun other hmem => h.mem_distinct_iff.1 hmem) ih

end Order

end Piece

namespace UrlTemplate

/-! ## The placeholders of an address -/

def braced (name : String) : String := "\x7b" ++ name ++ "\x7d"

/-- The names that stand in braces in a text, each once, in the order of their first places. -/
structure Lists (text : String) (names : List String) : Prop where
  nodup : names.Nodup
  mem_iff : ∀ name, name ∈ names ↔ name ≠ "" ∧ '\x7b' ∉ name.toList ∧ '\x7d' ∉ name.toList ∧
    (braced name).toList <:+: text.toList
  ordered : names.Pairwise fun name other =>
    Before text.toList (braced name).toList (braced other).toList

theorem toList_braced (name : String) :
    (braced name).toList = (Piece.placeholder name.toList).chars := by
  simp [braced, Piece.chars]

theorem isName_toList_iff {name : String} : Piece.IsName name.toList ↔
    name ≠ "" ∧ '\x7b' ∉ name.toList ∧ '\x7d' ∉ name.toList := by
  have hne : name.toList ≠ [] ↔ name ≠ "" := String.toList_eq_nil_iff.not
  constructor
  · intro h
    exact ⟨hne.1 h.ne_nil, h.open_not_mem, h.close_not_mem⟩
  · rintro ⟨hname, hopen, hclose⟩
    exact ⟨hne.2 hname, hopen, hclose⟩

theorem placeholders_eq_map (text : String) : (parse text).placeholders =
    (distinct ((Piece.ofChars text.toList).filterMap Piece.name?)).map String.ofList :=
  distinct_map (fun _ _ => String.ofList_injective) _

theorem lists_placeholders (text : String) : Lists text (parse text).placeholders where
  nodup := nodup_distinct _
  mem_iff name := by
    rw [mem_placeholders_iff, ← Piece.mem_filterMap_name?_iff, ← mem_distinct,
      (Piece.parsed_ofChars text.toList).mem_distinct_iff, isName_toList_iff, toList_braced]
    simp only [and_assoc]
  ordered := by
    rw [placeholders_eq_map, List.pairwise_map]
    simp only [toList_braced, String.toList_ofList]
    exact (Piece.parsed_ofChars text.toList).ordered

/-- There is only one way to list the names. -/
theorem Lists.unique {text : String} {names others : List String} (h : Lists text names)
    (h' : Lists text others) : names = others := by
  have hmem : ∀ name, name ∈ names ↔ name ∈ others :=
    fun name => (h.mem_iff name).trans (h'.mem_iff name).symm
  have hperm : names.Perm others := (List.perm_ext_iff_of_nodup h.nodup h'.nodup).2 hmem
  exact hperm.eq_of_pairwise (fun _ _ _ _ hbefore hafter => absurd hafter hbefore.asymm) h.ordered
    h'.ordered

/-- **The placeholders of an address** are the names that stand in braces in it, each once, in the
order of their first places. -/
theorem lists_iff {text : String} {names : List String} :
    Lists text names ↔ names = (parse text).placeholders := by
  constructor
  · intro h
    exact h.unique (lists_placeholders text)
  · rintro rfl
    exact lists_placeholders text

-- {a{b}}{}{c}/{b}
example : (parse "\x7ba\x7bb\x7d\x7d\x7b\x7d\x7bc\x7d/\x7bb\x7d").placeholders = ["b", "c"] := by
  decide +kernel

end UrlTemplate

end ToolScaffold
