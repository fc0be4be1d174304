import ToolScaffold.Proofs.Server.Lexeme
import ToolScaffold.Proofs.Text.Replace
import ToolScaffold.Proofs.Validation.Accepted

/-!
# What documentation texts say

The documentation text of a function is a long literal. `documents_ofTool`: the literal ends where
the documentation text does, and with its escapes undone it says the tool's documentation, which is
the description of the tool and of each of its parameters, word for word (`Tool.documentation`).

`Spells written said` relates a text inside of the literal to what it says. What is spelled can be
put together (`Spells.append`), is read back (`Spells.unescape?_eq`), and ends no literal
(`Spells.inert`).
-/

namespace ToolScaffold

open Text

/-! ## What is to be said -/

/-- The properties with a description that is not empty, next to these descriptions. -/
def InputSchema.described (s : InputSchema) : List (String × String) :=
  s.properties.filterMap fun (name, p) =>
    match p.description with
    | none => none
    | some text => if text = "" then none else some (name, text)

namespace Tool

/-- The description, or what stands for one that is missing or empty. -/
def summary (t : Tool) : String :=
  match t.description with
  | none => "No description"
  | some text => if text = "" then "No description" else text

/-- The summary, and below a heading an entry for each property that is described. -/
def documentation (t : Tool) : String :=
  if t.inputSchema.described = [] then t.summary
  else t.summary ++ "\n\n    Args:\n" ++ "\n".intercalate
    (t.inputSchema.described.map fun (name, text) => "        " ++ name ++ ": " ++ text)

end Tool

namespace Server

open Lexeme

/-- The text with its escapes undone; nothing but backslashes and double quotes may be escaped. -/
def unescape? : List Char → Option (List Char)
  | [] => some []
  | '\\' :: c :: rest => if c = '\\' ∨ c = '"' then (unescape? rest).map (c :: ·) else none
  | c :: rest => if c = '\\' then none else (unescape? rest).map (c :: ·)

/-- A documentation text is one literal between three double quotes, and says a text. -/
structure Documents (docstring : String) (body : List Char) (said : String) : Prop where
  toList_eq : docstring.toList = delimiter true ++ (body ++ delimiter true)
  /-- The first delimiter after the opening one that is not escaped is the last one. -/
  closes : splitAtClose (delimiter true) (body ++ delimiter true) = some (body, [])
  scan_eq : scan docstring.toList = some [.literal true body]
  unescape?_eq : unescape? body = some said.toList

/-! ## Spelling -/

/-- Inside of a documentation text backslashes and double quotes are escaped, and all else stands
for itself. -/
inductive Spells : List Char → List Char → Prop where
  | nil : Spells [] []
  | plain {c : Char} {written said : List Char} (hquote : c ≠ '"') (hslash : c ≠ '\\')
    (h : Spells written said) : Spells (c :: written) (c :: said)
  | escaped {c : Char} {written said : List Char} (hc : c = '\\' ∨ c = '"')
    (h : Spells written said) : Spells ('\\' :: c :: written) (c :: said)

namespace Spells

variable {written said written' said' : List Char}

theorem inert (h : Spells written said) : Inert written := by
  induction h with
  | nil => exact .nil
  | plain hquote hslash _ ih => exact .plain hquote hslash ih
  | escaped _ _ ih => exact .escaped _ ih

theorem unescape?_eq (h : Spells written said) : unescape? written = some said := by
  induction h with
  | nil => rfl
  | plain _ hslash _ ih =>
    rw [unescape?.eq_def]
    split
    · next heq => cases heq
    · next heq => exact absurd (List.cons.inj heq).1 hslash
    · next heq =>
      obtain ⟨rfl, rfl⟩ := List.cons.inj heq
      rw [if_neg hslash, ih, Option.map_some]
  | escaped hc _ ih => rw [unescape?, if_pos hc, ih, Option.map_some]

theorem append (h : Spells written said) (h' : Spells written' said') :
    Spells (written ++ written') (said ++ said') := by
  induction h with
  | nil => exact h'
  | plain hquote hslash _ ih => exact plain hquote hslash ih
  | escaped hc _ ih => exact escaped hc ih

/-- A text without backslashes and double quotes is spelled as it is. -/
theorem of_not_mem (hquote : '"' ∉ said) (hslash : '\\' ∉ said) : Spells said said := by
  induction said with
  | nil => exact nil
  | cons c said ih =>
    rw [List.mem_cons, not_or] at hquote hslash
    exact plain (Ne.symm hquote.1) (Ne.symm hslash.1) (ih hquote.2 hslash.2)

theorem intercalate {α : Type} {f g : α → String} {separator : String}
    (hsep : Spells separator.toList separator.toList) {xs : List α}
    (h : ∀ x ∈ xs, Spells (f x).toList (g x).toList) :
    Spells (separator.intercalate (xs.map f)).toList (separator.intercalate (xs.map g)).toList := by
  induction xs with
  | nil => exact nil
  | cons x xs ih =>
    have hx := h x List.mem_cons_self
    cases xs with
    | nil =>
      rw [List.map_singleton, List.map_singleton, String.intercalate_singleton,
        String.intercalate_singleton]
      exact hx
    | cons y ys =>
      simp only [List.map_cons, String.intercalate_cons_cons, String.toList_append] at ih ⊢
      exact (hx.append hsep).append (ih fun z hz => h z (List.mem_cons_of_mem x hz))

end Spells

/-! ## Free text -/

theorem spells_docChar (c : Char) : Spells (docChar c) [c] := by
  unfold docChar
  split_ifs with hslash hquote
  · rw [hslash]
    exact .escaped (.inl rfl) .nil
  · rw [hquote]
    exact .escaped (.inr rfl) .nil
  · exact .plain hquote hslash .nil

theorem spells_docText (s : String) : Spells (docText s).toList s.toList := by
  rw [docText, String.toList_ofList]
  induction s.toList with
  | nil => exact .nil
  | cons c cs ih =>
    rw [List.flatMap_cons]
    exact (spells_docChar c).append ih

/-- The escapes are put in by two replacements. The one of the double quotes comes last, as it adds
backslashes that the other one would escape. -/
theorem toList_docText (s : String) : (docText s).toList =
    replaceAll ['"'] ['\\', '"'] (replaceAll ['\\'] ['\\', '\\'] s.toList) := by
  rw [docText, String.toList_ofList, replaceAll_singleton, replaceAll_singleton,
    List.flatMap_assoc]
  refine List.flatMap_congr fun c _ => ?_
  unfold docChar
  split_ifs with hslash hquote
  · rfl
  · rw [hquote]
    rfl
  · simp [hquote]

/-! ## The documentation text of a tool -/

/-- What stands between the delimiters of a documentation text. -/
def docBody (description : Option String) (parameters : List Parameter) : String :=
  docText ((description.filter (· ≠ "")).getD noDescription) ++
    if (parameters.filterMap Parameter.docLine?).isEmpty then ""
    else "\n\n    Args:\n" ++ "\n".intercalate (parameters.filterMap Parameter.docLine?)

theorem docstringOf_eq (description : Option String) (parameters : List Parameter) :
    docstringOf description parameters =
      docQuote ++ docBody description parameters ++ docQuote := by
  simp only [docstringOf, docBody, String.append_assoc]

theorem filterMap_docLine? (s : InputSchema) : s.parameters.filterMap Parameter.docLine? =
    s.described.map fun (name, text) => "        " ++ name ++ ": " ++ docText text := by
  -- a parameter has a line exactly if its property is described
  rw [InputSchema.parameters, InputSchema.described, List.filterMap_map, List.map_filterMap]
  refine List.filterMap_congr fun (name, p) _ => ?_
  simp only [Function.comp_apply, Parameter.docLine?]
  cases p.description with
  | none => rfl
  | some text => by_cases hempty : text = "" <;> simp [hempty]

theorem filter_getD_eq_summary (t : Tool) :
    (t.description.filter (· ≠ "")).getD noDescription = t.summary := by
  unfold Tool.summary
  cases t.description with
  | none => rfl
  | some text => by_cases hempty : text = "" <;> simp [Option.filter, hempty, noDescription]

theorem fst_mem_names {s : InputSchema} {entry : String × String} (h : entry ∈ s.described) :
    entry.1 ∈ s.names := by
  obtain ⟨⟨name, p⟩, hproperty, hsome⟩ := List.mem_filterMap.1 h
  dsimp only at hsome
  split at hsome
  · cases hsome
  · split at hsome
    · cases hsome
    · cases hsome
      exact List.mem_map_of_mem hproperty

section Documented

variable {t : Tool} (h : ∀ name ∈ t.inputSchema.names, Identifier.hasForm name.toList = true)

include h

theorem spells_entry {entry : String × String} (hentry : entry ∈ t.inputSchema.described) :
    Spells ("        " ++ entry.1 ++ ": " ++ docText entry.2).toList
      ("        " ++ entry.1 ++ ": " ++ entry.2).toList := by
  have hform : Identifier.hasForm entry.1.toList = true := h entry.1 (fst_mem_names hentry)
  have hname : Spells entry.1.toList entry.1.toList :=
    .of_not_mem (Identifier.not_mem_of_hasForm hform rfl) (Identifier.not_mem_of_hasForm hform rfl)
  simp only [String.toList_append]
  refine .append (.append (.append ?_ hname) ?_) (spells_docText entry.2)
  · exact .of_not_mem (by decide) (by decide)
  · exact .of_not_mem (by decide) (by decide)

theorem spells_docBody :
    Spells (docBody t.description t.inputSchema.parameters).toList t.documentation.toList := by
  rw [docBody, filter_getD_eq_summary, filterMap_docLine?, Tool.documentation, List.isEmpty_map]
  by_cases hnone : t.inputSchema.described = []
  · rw [if_pos hnone, hnone, List.isEmpty_nil, if_pos rfl, String.append_empty]
    exact spells_docText t.summary
  · have hheading : Spells "\n\n    Args:\n".toList "\n\n    Args:\n".toList :=
      .of_not_mem (by decide) (by decide)
    have hbreak : Spells "\n".toList "\n".toList := .of_not_mem (by decide) (by decide)
    have hentries := Spells.intercalate hbreak fun _ hentry => spells_entry h hentry
    rw [if_neg hnone, List.isEmpty_eq_false_iff.2 hnone, if_neg Bool.false_ne_true]
    simp only [String.toList_append, List.append_assoc]
    exact (spells_docText t.summary).append (hheading.append hentries)

/-- **The documentation text of a function** is one literal, and it says the documentation of the
tool word for word. -/
theorem documents_ofTool :
    ∃ body, Documents (Function.ofTool t).docstring body t.documentation := by
  -- what is spelled ends no literal, so the delimiter behind it is the first one
  have hspells := spells_docBody h
  have hchars : (Function.ofTool t).docstring.toList = delimiter true ++
      ((docBody t.description t.inputSchema.parameters).toList ++ delimiter true) := by
    simp [Function.ofTool, docstringOf_eq, docQuote, delimiter]
  refine ⟨(docBody t.description t.inputSchema.parameters).toList, hchars, ?_, ?_,
    hspells.unescape?_eq⟩
  · have hcloses := splitAtClose_inert true [] hspells.inert
    rwa [List.append_nil] at hcloses
  · have hscan := scan_long hspells.inert []
    rw [List.append_nil] at hscan
    rw [hchars, hscan, scan]
    rfl

end Documented

/-- A tool that has something to say about one of its parameters, with everything that could end a
documentation text too early. -/
def quotingTool : Tool :=
  { Tool.ofName "quote" .static with
    description := some "ends in \"\"\"\\"
    inputSchema := .ofDocument [("properties", .obj [
      ("class", .obj [("description", .str "\\\"\"\"")]),
      ("page", .obj [("description", .str "")]), ("q", .null)])] }

theorem documents_quotingTool :
    (∀ name ∈ quotingTool.inputSchema.names, Identifier.hasForm name.toList = true) ∧
      quotingTool.documentation =
        "ends in \"\"\"\\\n\n    Args:\n        class: \\\"\"\"" ∧
      ∃ body, Documents (Function.ofTool quotingTool).docstring body quotingTool.documentation := by
  have hnames : ∀ name ∈ quotingTool.inputSchema.names, Identifier.hasForm name.toList = true := by
    decide +kernel
  have hsaid : quotingTool.documentation =
      "ends in \"\"\"\\\n\n    Args:\n        class: \\\"\"\"" := by
    decide +kernel
  exact ⟨hnames, hsaid, documents_ofTool hnames⟩

end Server

end ToolScaffold
