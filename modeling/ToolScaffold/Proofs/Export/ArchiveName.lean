import ToolScaffold.Export
import ToolScaffold.Proofs.Disk.Tree
import ToolScaffold.Proofs.Text.Blank
import ToolScaffold.Proofs.Text.LowerCase
import ToolScaffold.Proofs.Validation.Usable

/-!
# The names of archives

The name of an archive is made of the name of a project, which can be any text. `archiveName_safe`:
what stands for the project in it is made of small letters, digits and underscores only and is never
empty, so that an archive is always written into the directory that was asked for; the default
stands for blank names and for no others; and the name that was made once is not changed when it is
made again.

The first and the last rest on `isSlugChar_slugOf`: lower case leaves no capital letter, whatever
the script, and all that is no letter from `a` to `z` after that is replaced.
-/

namespace ToolScaffold

/-- A letter from `a` to `z`, a digit or an underscore. -/
def IsSlugChar (c : Char) : Prop := 'a' ≤ c ∧ c ≤ 'z' ∨ '0' ≤ c ∧ c ≤ '9' ∨ c = '_'

/-- What is made of a project's name, before the default stands in for nothing. -/
def slugChars (name : String) : List Char :=
  (Identifier.derive (Text.trim name)).toList.map fun c =>
    if Identifier.isPart c then c else '_'

theorem slugOf_eq (name : String) : slugOf name =
    if slugChars name = [] then defaultSlug else String.ofList (slugChars name) := by
  unfold slugOf
  dsimp only
  rw [slugChars]
  simp only [List.isEmpty_iff]

/-! ## Its characters -/

theorem IsSlugChar.range {c : Char} (h : IsSlugChar c) :
    0x61 ≤ c.toNat ∧ c.toNat ≤ 0x7A ∨ 0x30 ≤ c.toNat ∧ c.toNat ≤ 0x39 ∨ c.toNat = 0x5F := by
  rcases h with h | h | rfl
  · exact .inl h
  · exact .inr (.inl h)
  · exact .inr (.inr rfl)

theorem isSlugChar_of_isPart {c : Char} (hpart : Identifier.isPart c = true)
    (hupper : c.isUpper = false) : IsSlugChar c := by
  rcases (Identifier.isPart_iff c).1 hpart with (hcapital | hlower) | rfl | hdigit
  · exact absurd (decide_eq_true hcapital) (Bool.eq_false_iff.1 hupper)
  · exact .inl hlower
  · exact .inr (.inr rfl)
  · exact .inr (.inl hdigit)

theorem isSlugChar_of_mem_slugChars {name : String} : ∀ c ∈ slugChars name, IsSlugChar c := by
  intro c hc
  obtain ⟨d, hd, rfl⟩ := List.mem_map.1 hc
  split
  · next hpart => exact isSlugChar_of_isPart hpart (Text.isUpper_lower _ d hd)
  · exact .inr (.inr rfl)

/-- **What stands for a project** is made of small letters, digits and underscores. -/
theorem isSlugChar_slugOf (name : String) : ∀ c ∈ (slugOf name).toList, IsSlugChar c := by
  rw [slugOf_eq]
  split
  · have hdefault : defaultSlug.toList = ['p', 'r', 'o', 'j', 'e', 'c', 't'] := by decide
    rw [hdefault]
    simp only [List.forall_mem_cons]
    refine ⟨?_, ?_, ?_, ?_, ?_, ?_, ?_, List.forall_mem_nil _⟩ <;> exact .inl (by decide)
  · rw [String.toList_ofList]
    exact isSlugChar_of_mem_slugChars

theorem slugOf_ne_empty (name : String) : slugOf name ≠ "" := by
  rw [slugOf_eq]
  split
  · decide
  · next hne => rwa [ne_eq, String.ofList_eq_empty_iff]

/-! ## The default -/

theorem derive_eq_empty_iff (name : String) : Identifier.derive name = "" ↔ name = "" := by
  rw [Identifier.derive, Text.lower_eq_empty_iff, String.ofList_eq_empty_iff, List.map_eq_nil_iff,
    String.toList_eq_nil_iff]

theorem slugChars_eq_nil_iff (name : String) : slugChars name = [] ↔ Text.isBlank name = true := by
  rw [slugChars, List.map_eq_nil_iff, String.toList_eq_nil_iff, derive_eq_empty_iff,
    Text.trim_eq_empty_iff]

/-! ## Once more -/

section Again

variable {s : String} (h : ∀ c ∈ s.toList, IsSlugChar c)

theorem IsSlugChar.isPlain {c : Char} (h : IsSlugChar c) : Text.IsPlain c := by
  rw [Text.IsPlain, Text.isUpper_eq_false_iff]
  have hrange := h.range
  omega

theorem IsSlugChar.isBlankChar {c : Char} (h : IsSlugChar c) : Text.isBlankChar c = false := by
  have hrange := h.range
  simp only [Text.isBlankChar, Text.blankRanges, Text.Ranges.contains, List.any_cons, List.any_nil,
    Bool.or_false, Bool.or_eq_false_iff, Bool.and_eq_false_iff, decide_eq_false_iff_not]
  omega

theorem IsSlugChar.underscored {c : Char} (h : IsSlugChar c) : Identifier.underscored c = c := by
  have hblank : ¬(c = ' ' ∨ c = '-') := by
    have hrange := h.range
    rintro (rfl | rfl)
    · exact absurd hrange (by decide)
    · exact absurd hrange (by decide)
  rw [Identifier.underscored, if_neg hblank]

theorem IsSlugChar.isPart {c : Char} (h : IsSlugChar c) : Identifier.isPart c = true := by
  rw [Identifier.isPart_iff]
  rcases h with h | h | rfl
  · exact .inl (.inr h)
  · exact .inr (.inr h)
  · exact .inr (.inl rfl)

include h in
theorem slugChars_of_isSlugChar : slugChars s = s.toList := by
  have hmap : s.toList.map Identifier.underscored = s.toList :=
    (List.map_congr_left fun c hc => (h c hc).underscored).trans (List.map_id' _)
  have hparts : s.toList.map (fun c => if Identifier.isPart c then c else '_') = s.toList :=
    (List.map_congr_left fun c hc => if_pos (h c hc).isPart).trans (List.map_id' _)
  rw [slugChars, Text.trim_of_forall fun c hc => (h c hc).isBlankChar, Identifier.derive, hmap,
    String.ofList_toList, Text.lower_of_plain fun c hc => (h c hc).isPlain, hparts]

end Again

/-- **What was made of a name** is made of itself. -/
theorem slugOf_slugOf (name : String) : slugOf (slugOf name) = slugOf name := by
  have hchars := slugChars_of_isSlugChar (isSlugChar_slugOf name)
  rw [slugOf_eq (slugOf name), hchars, String.ofList_toList, if_neg]
  rw [String.toList_eq_nil_iff]
  exact slugOf_ne_empty name

/-! ## In a directory -/

/-- The name of an archive is a name of something inside of a directory. -/
theorem isName_archiveName (name : String) : Path.IsName (archiveName name) := by
  have hchars : (archiveName name).toList =
      "mcp_project_".toList ++ ((slugOf name).toList ++ ".zip".toList) := by
    rw [archiveName, String.toList_append, String.toList_append, List.append_assoc]
  have hlength : 16 ≤ (archiveName name).toList.length := by
    rw [hchars, List.length_append, List.length_append]
    have hfront : "mcp_project_".toList.length = 12 := by decide
    have hback : ".zip".toList.length = 4 := by decide
    omega
  have hne : ∀ s : String, s.toList.length < 16 → archiveName name ≠ s := by
    rintro s hs rfl
    omega
  constructor
  case notMem_slash =>
    rw [hchars, List.mem_append, List.mem_append]
    rintro (hfront | hslug | hback)
    · exact absurd hfront (by decide)
    · have hrange := (isSlugChar_slugOf name _ hslug).range
      exact absurd hrange (by decide)
    · exact absurd hback (by decide)
  case ne_empty => exact hne "" (by decide)
  case ne_dot => exact hne "." (by decide)
  case ne_dots => exact hne ".." (by decide)

/-- The path is that of something directly inside of a directory: it has one part more, and in every
tree in which it leads anywhere, it leads to a place inside of the directory. -/
structure Path.IsChild (output target : Path) (name : String) : Prop where
  components_eq : target.components = output.components ++ [name]
  isAbsolute_eq : target.isAbsolute = output.isAbsolute
  find : ∀ (t : Tree) (limits : Limits) (place : Place), t.find target limits = .ok place →
    ∃ above, t.directory output limits = .ok above ∧ place = above ++ [name]

/-- **The name of an archive** is safe for every name of a project: it is made of small letters,
digits and underscores, and names something directly inside of every directory. The default stands
for blank names only, and a name made of what stands for a project is the same name. -/
theorem archiveName_safe (name : String) :
    archiveName name = "mcp_project_" ++ slugOf name ++ ".zip" ∧
      slugOf name ≠ "" ∧ (∀ c ∈ (slugOf name).toList, IsSlugChar c) ∧
      (∀ output : Path, output.IsChild (output.join (archiveName name)) (archiveName name)) ∧
      (slugOf name = if slugChars name = [] then "project" else String.ofList (slugChars name)) ∧
      (slugChars name = [] ↔ Text.isBlank name = true) ∧
      archiveName (slugOf name) = archiveName name := by
  have hname := isName_archiveName name
  refine ⟨rfl, slugOf_ne_empty name, isSlugChar_slugOf name, fun output => ?_, slugOf_eq name,
    slugChars_eq_nil_iff name, ?_⟩
  · exact ⟨Path.components_join output hname, Path.isAbsolute_join output hname.notMem_slash,
      fun _ _ _ => Tree.find_join hname⟩
  · rw [archiveName, slugOf_slugOf, archiveName]

end ToolScaffold
