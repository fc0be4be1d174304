import ToolScaffold.Proofs.Server.Assembly
import ToolScaffold.Proofs.Server.Documentation

/-!
# Free text stays inside of literals

The code of a server is fixed by the `Outline` of each tool: the name of its function, its
parameters, whether it asks a web address, and which placeholders are filled in.
`skeleton_eq_of_outline_eq`: two projects without problems whose tools have the same outlines give
sources with the same code and the same literals, up to what the literals say, and no literal is
left open. Names of projects and tools, descriptions, endpoints and the rest of the schemas only
ever reach the inside of literals.

The proof runs along the pieces of a source. `Adds s k` says that `s`, put in front of any text,
adds the lexemes `k`; two pieces are `Alike` if they add the same, and pieces that are alike can be
put together (`Alike.append`).
-/

namespace ToolScaffold

/-! ## Outlines -/

/-- What the code of a tool's function may depend on. -/
structure Outline where
  identifier : String
  /-- The name of each parameter, its annotation, and whether it is required. -/
  parameters : List (String × String × Bool)
  isApiCall : Bool
  /-- The placeholders that are filled in from parameters. -/
  bound : List String
  deriving DecidableEq

namespace Tool

/-- The placeholders of the web address that are filled in from parameters. -/
def boundPlaceholders (t : Tool) : List String :=
  match t.asked? with
  | some endpoint => (UrlTemplate.parse endpoint).bound t.inputSchema.names
  | none => []

def outline (t : Tool) : Outline where
  identifier := t.identifier
  parameters := t.inputSchema.parameters.map fun p => (p.name, p.type.annotation, p.required)
  isApiCall := t.isApiCall
  bound := t.boundPlaceholders

end Tool

namespace Server

open Lexeme

/-! ## Pieces of a source -/

/-- In front of any text, the piece adds these lexemes. -/
def Adds (s : String) (k : List Lexeme) : Prop :=
  ∀ rest, skeleton (s.toList ++ rest) = (skeleton rest).map (k ++ ·)

/-- The pieces add the same lexemes. -/
def Alike (a b : String) : Prop := ∃ k, Adds a k ∧ Adds b k

theorem Adds.append {a b : String} {k l : List Lexeme} (ha : Adds a k) (hb : Adds b l) :
    Adds (a ++ b) (k ++ l) := by
  intro rest
  rw [String.toList_append, List.append_assoc, ha, hb, Option.map_map]
  congr 1
  funext lexemes
  exact (List.append_assoc k l lexemes).symm

/-- A text without double quotes is code. -/
theorem Adds.code {s : String} (h : '"' ∉ s.toList) : Adds s (s.toList.map .code) :=
  skeleton_unquoted h

/-- Code that can stand behind a literal: it is not empty and holds no double quote. -/
structure IsCode (s : String) : Prop where
  ne_empty : s ≠ ""
  unquoted : '"' ∉ s.toList

theorem IsCode.fixed {cs : List Char} (hne : cs ≠ []) (h : '"' ∉ cs) :
    IsCode (String.ofList cs) where
  ne_empty heq := hne (by rw [← String.toList_ofList (l := cs), heq, String.toList_empty])
  unquoted := by rwa [String.toList_ofList]

theorem Adds.literal (s : String) {tail : String} (htail : IsCode tail) :
    Adds (literal s ++ tail) (.literal false [] :: tail.toList.map .code) := by
  intro rest
  -- a double quote behind an empty literal would open a long one
  have hhead : (tail.toList ++ rest).head? ≠ some '"' := by
    cases hchars : tail.toList with
    | nil => exact absurd (String.toList_eq_nil_iff.1 hchars) htail.ne_empty
    | cons c cs =>
      have hc := htail.unquoted
      rw [hchars] at hc
      intro heq
      cases heq
      exact hc List.mem_cons_self
  have hsplit : (Server.literal s ++ tail).toList ++ rest =
      '"' :: (Json.escape s.toList ++ '"' :: (tail.toList ++ rest)) := by
    simp [Server.literal, Json.quote, Json.stringChars]
  rw [hsplit, skeleton_short (inert_escape s.toList) hhead, Adds.code htail.unquoted,
    Option.map_map]
  rfl

theorem Adds.long {body : String} (h : Inert body.toList) :
    Adds (docQuote ++ body ++ docQuote) [.literal true []] := by
  intro rest
  have hsplit : (docQuote ++ body ++ docQuote).toList ++ rest =
      delimiter true ++ (body.toList ++ (delimiter true ++ rest)) := by
    simp [docQuote, delimiter]
  rw [hsplit, skeleton_long h]
  rfl

namespace Alike

theorem append {a b c d : String} (h : Alike a b) (h' : Alike c d) : Alike (a ++ c) (b ++ d) := by
  obtain ⟨k, ha, hb⟩ := h
  obtain ⟨l, hc, hd⟩ := h'
  exact ⟨k ++ l, ha.append hc, hb.append hd⟩

theorem code {s : String} (h : '"' ∉ s.toList) : Alike s s := ⟨_, Adds.code h, Adds.code h⟩

theorem fixed {cs : List Char} (h : '"' ∉ cs) : Alike (String.ofList cs) (String.ofList cs) :=
  code (by rwa [String.toList_ofList])

theorem empty : Alike "" "" := fixed (by decide)

theorem long {body body' : String} (h : Inert body.toList) (h' : Inert body'.toList) :
    Alike (docQuote ++ body ++ docQuote) (docQuote ++ body' ++ docQuote) :=
  ⟨_, Adds.long h, Adds.long h'⟩

/-- Texts that are alike have the same skeleton, and no literal is left open in them. -/
theorem skeleton_eq {a b : String} (h : Alike a b) :
    ∃ k, skeleton a.toList = some k ∧ skeleton b.toList = some k := by
  obtain ⟨k, ha, hb⟩ := h
  have hnil : skeleton [] = some [] := by
    unfold skeleton
    rw [scan]
    rfl
  have ha' := ha []
  have hb' := hb []
  rw [List.append_nil, hnil] at ha' hb'
  exact ⟨k ++ [], ha', hb'⟩

end Alike

/-- The pieces add the same lexemes where code follows, which keeps a literal at their end apart
from the next one. -/
def AlikeBefore (a b : String) : Prop := ∀ tail, IsCode tail → Alike (a ++ tail) (b ++ tail)

theorem Alike.before {a b : String} (h : Alike a b) : AlikeBefore a b :=
  fun _ htail => h.append (.code htail.unquoted)

namespace AlikeBefore

theorem literal (s s' : String) : AlikeBefore (literal s) (literal s') :=
  fun _ htail => ⟨_, Adds.literal s htail, Adds.literal s' htail⟩

theorem append {a b c d : String} (h : Alike a b) (h' : AlikeBefore c d) :
    AlikeBefore (a ++ c) (b ++ d) := by
  intro tail htail
  rw [String.append_assoc, String.append_assoc]
  exact h.append (h' tail htail)

theorem intercalate {separator : String} (hsep : IsCode separator) {xs : List String}
    (h : ∀ x ∈ xs, AlikeBefore x x) :
    AlikeBefore (separator.intercalate xs) (separator.intercalate xs) := by
  induction xs with
  | nil => exact Alike.empty.before
  | cons x xs ih =>
    cases xs with
    | nil =>
      rw [String.intercalate_singleton]
      exact h x List.mem_cons_self
    | cons y ys =>
      rw [String.intercalate_cons_cons]
      exact append (h x List.mem_cons_self separator hsep)
        (ih fun z hz => h z (List.mem_cons_of_mem x hz))

end AlikeBefore

/-! ## What is the same on both sides -/

theorem unquoted_of_isValid {name : String} (h : Identifier.isValid name = true) :
    '"' ∉ name.toList := Identifier.not_mem_of_isPart_eq_false h rfl

theorem alikeBefore_defaultLiteral (type : ParamType) :
    AlikeBefore type.defaultLiteral type.defaultLiteral := by
  cases type with
  | text => exact AlikeBefore.literal "" ""
  | float => exact (Alike.fixed (by decide)).before
  | int => exact (Alike.fixed (by decide)).before
  | bool => exact (Alike.fixed (by decide)).before
  | list => exact (Alike.fixed (by decide)).before
  | map => exact (Alike.fixed (by decide)).before

theorem alikeBefore_declaration {p : Parameter} (hp : Identifier.isValid p.name = true) :
    AlikeBefore p.declaration p.declaration := by
  have hfront : Alike (p.name ++ ": " ++ p.type.annotation)
      (p.name ++ ": " ++ p.type.annotation) := by
    refine ((Alike.code (unquoted_of_isValid hp)).append (.fixed (by decide))).append ?_
    cases p.type <;> exact Alike.fixed (by decide)
  unfold Parameter.declaration
  refine AlikeBefore.append hfront ?_
  cases p.required with
  | true => exact Alike.empty.before
  | false => exact AlikeBefore.append (.fixed (by decide)) (alikeBefore_defaultLiteral p.type)

theorem alikeBefore_valueEntry {name : String} (h : Identifier.isValid name = true) :
    AlikeBefore (valueEntry name) (valueEntry name) := by
  have hcode : IsCode ": " := .fixed (by decide) (by decide)
  exact ((AlikeBefore.literal name name ": " hcode).append
    (.code (unquoted_of_isValid h))).before

theorem alike_signature {t : Tool} (ht : t.Accepted) : Alike (signature t) (signature t) := by
  have hfront : Alike ("def " ++ t.identifier ++ "(") ("def " ++ t.identifier ++ "(") :=
    ((Alike.fixed (by decide)).append (.code (unquoted_of_isValid ht.identifier_valid))).append
      (.fixed (by decide))
  have hparams : AlikeBefore (Function.ofTool t).params (Function.ofTool t).params := by
    refine AlikeBefore.intercalate (.fixed (by decide) (by decide)) fun d hd => ?_
    obtain ⟨p, hp, rfl⟩ := List.mem_map.1 hd
    exact alikeBefore_declaration (ht.parameter_valid p hp)
  exact AlikeBefore.append hfront hparams ") -> str:" (.fixed (by decide) (by decide))

/-! ## Functions with the same outline -/

theorem annotation_injective {a b : ParamType} (h : a.annotation = b.annotation) : a = b := by
  cases a <;> cases b <;> first | rfl | exact absurd h (by decide)

theorem declaration_congr {p q : Parameter}
    (h : (p.name, p.type.annotation, p.required) = (q.name, q.type.annotation, q.required)) :
    p.declaration = q.declaration := by
  simp only [Prod.mk.injEq] at h
  obtain ⟨hname, htype, hrequired⟩ := h
  rw [Parameter.declaration, Parameter.declaration, hname, annotation_injective htype, hrequired]

theorem map_congr_of_map_eq {α β γ : Type} {f : α → β} {g : α → γ}
    (h : ∀ x y, f x = f y → g x = g y) :
    ∀ {xs ys : List α}, xs.map f = ys.map f → xs.map g = ys.map g
  | [], [], _ => rfl
  | [], _ :: _, heq => by cases heq
  | _ :: _, [], heq => by cases heq
  | x :: xs, y :: ys, heq => by
    rw [List.map_cons, List.map_cons, List.cons.injEq] at heq
    rw [List.map_cons, List.map_cons, h x y heq.1, map_congr_of_map_eq h heq.2]

theorem signature_congr {t u : Tool} (h : t.outline = u.outline) : signature t = signature u := by
  simp only [Tool.outline, Outline.mk.injEq] at h
  obtain ⟨hidentifier, hparameters, -, -⟩ := h
  have hdeclarations : t.inputSchema.parameters.map Parameter.declaration =
      u.inputSchema.parameters.map Parameter.declaration :=
    map_congr_of_map_eq (fun _ _ => declaration_congr) hparameters
  simp only [signature, Function.ofTool, hdeclarations, hidentifier]

/-! ### Documentation -/

/-- A documentation text is one literal with an inert text in it. -/
theorem inert_docBody {t : Tool} (ht : t.Accepted) :
    Inert (docBody t.description t.inputSchema.parameters).toList := by
  have hnames : ∀ name ∈ t.inputSchema.names, Identifier.hasForm name.toList = true :=
    fun name hname => Identifier.hasForm_of_isValid (ht.name_valid name hname)
  exact (spells_docBody hnames).inert

theorem alike_docstring {t u : Tool} (ht : t.Accepted) (hu : u.Accepted) :
    Alike (Function.ofTool t).docstring (Function.ofTool u).docstring := by
  simp only [Function.ofTool, docstringOf_eq]
  exact Alike.long (inert_docBody ht) (inert_docBody hu)

/-! ### Bodies -/

theorem alike_statementLine {a b : String} (h : AlikeBefore a b) :
    Alike (statementLine a) (statementLine b) := by
  have hindent : Alike "    " "    " := .fixed (by decide)
  exact AlikeBefore.append hindent h "\n" (.fixed (by decide) (by decide))

theorem alike_statementLine_code {s : String} (h : '"' ∉ s.toList) :
    Alike (statementLine s) (statementLine s) := alike_statementLine (Alike.code h).before

theorem alike_staticBody (name name' : String) :
    Alike (bodyText (staticBody name)) (bodyText (staticBody name')) := by
  simp only [bodyText, staticBody, List.map_cons, List.map_nil, String.join_cons, String.join_nil,
    String.append_empty]
  exact alike_statementLine (AlikeBefore.append (.fixed (by decide)) (.literal _ _))

theorem alike_apiBody (endpoint endpoint' : String) {schema schema' : InputSchema}
    (hnames : ∀ name ∈ schema.names, Identifier.isValid name = true)
    (hbound : (UrlTemplate.parse endpoint).bound schema.names =
      (UrlTemplate.parse endpoint').bound schema'.names) :
    Alike (bodyText (apiBody endpoint schema)) (bodyText (apiBody endpoint' schema')) := by
  have hvalues : ∀ entry ∈ ((UrlTemplate.parse endpoint).bound schema.names).map valueEntry,
      AlikeBefore entry entry := by
    intro entry hentry
    obtain ⟨name, hname, rfl⟩ := List.mem_map.1 hentry
    have hdeclared := (List.mem_filter.1 hname).2
    exact alikeBefore_valueEntry (hnames name (List.contains_iff_mem.1 hdeclared))
  have hcall : Alike ("url = " ++ fillName ++ "(") ("url = " ++ fillName ++ "(") :=
    .code (by decide)
  have hfront := AlikeBefore.append hcall (.literal (UrlTemplate.parse endpoint).text
    (UrlTemplate.parse endpoint').text) ", \x7b" (.fixed (by decide) (by decide))
  have hcomma : IsCode ", " := .fixed (by decide) (by decide)
  have hurl := AlikeBefore.append hfront (.intercalate hcomma hvalues) "\x7d)"
    (.fixed (by decide) (by decide))
  simp only [bodyText, apiBody, List.map_cons, List.map_nil, String.join_cons, String.join_nil,
    String.append_empty, ← hbound]
  refine (alike_statementLine hurl.before).append (.append ?_ ?_)
  · exact alike_statementLine_code (by decide)
  · exact alike_statementLine_code (by decide)

theorem alike_body {t u : Tool} (ht : t.Accepted) (h : t.outline = u.outline) :
    Alike (bodyText (bodyOf t)) (bodyText (bodyOf u)) := by
  simp only [Tool.outline, Outline.mk.injEq] at h
  obtain ⟨-, -, hcall, hbound⟩ := h
  rw [t.isApiCall_eq, u.isApiCall_eq] at hcall
  unfold Tool.boundPlaceholders at hbound
  rw [bodyOf_eq, bodyOf_eq]
  cases hte : t.asked? with
  | none =>
    cases hue : u.asked? with
    | none => exact alike_staticBody t.name u.name
    | some endpoint' => rw [hte, hue] at hcall; cases hcall
  | some endpoint =>
    cases hue : u.asked? with
    | none => rw [hte, hue] at hcall; cases hcall
    | some endpoint' =>
      rw [hte, hue] at hbound
      exact alike_apiBody endpoint endpoint' ht.name_valid hbound

/-! ## Whole sources -/

theorem alike_block {t u : Tool} (ht : t.Accepted) (hu : u.Accepted)
    (h : t.outline = u.outline) : Alike (block t) (block u) := by
  have hopening : Alike ("\n@" ++ instanceName ++ ".tool()\n" ++ signature t)
      ("\n@" ++ instanceName ++ ".tool()\n" ++ signature u) := by
    rw [← signature_congr h]
    exact (Alike.code (by decide)).append (alike_signature ht)
  have hdoc := alike_statementLine (alike_docstring ht hu).before
  have hbody := alike_body ht h
  exact ((hopening.append (.fixed (by decide))).append hdoc).append hbody

theorem alike_blocks : ∀ {ts us : List Tool}, (∀ t ∈ ts, t.Accepted) → (∀ u ∈ us, u.Accepted) →
    ts.map Tool.outline = us.map Tool.outline →
    Alike (String.join (ts.map block)) (String.join (us.map block))
  | [], [], _, _, _ => .empty
  | [], _ :: _, _, _, h => by cases h
  | _ :: _, [], _, _, h => by cases h
  | t :: ts, u :: us, hts, hus, h => by
    rw [List.map_cons, List.map_cons, List.cons.injEq] at h
    rw [List.map_cons, List.map_cons, String.join_cons, String.join_cons]
    exact (alike_block (hts t List.mem_cons_self) (hus u List.mem_cons_self) h.1).append
      (alike_blocks (fun t' ht' => hts t' (List.mem_cons_of_mem t ht'))
        (fun u' hu' => hus u' (List.mem_cons_of_mem u hu')) h.2)

theorem any_isApiCall_eq (p : Project) :
    p.tools.any Tool.isApiCall = (p.tools.map Tool.outline).any Outline.isApiCall := by
  rw [List.any_map]
  rfl

theorem alike_helperText : Alike helperText helperText := by
  unfold helperText
  refine AlikeBefore.append (AlikeBefore.append (.append ?_ ?_) (.literal _ _) _ ?_)
    (.literal _ _) _ ?_
  · exact .fixed (by decide)
  · exact .fixed (by decide)
  · exact .fixed (by decide) (by decide)
  · exact .fixed (by decide) (by decide)

theorem alike_footer : Alike footer footer := by
  unfold footer
  refine .append (.append (AlikeBefore.append ?_ (.literal _ _) _ ?_) ?_) ?_
  · exact .fixed (by decide)
  · exact .fixed (by decide) (by decide)
  · exact .fixed (by decide)
  · exact .fixed (by decide)

theorem alike_importLine (p : Project) : Alike (importLine p) (importLine p) := by
  unfold importLine
  split
  · exact .code (by decide)
  · exact .empty

theorem alike_helper (p : Project) : Alike (helper p) (helper p) := by
  unfold helper
  split
  · exact ((Alike.fixed (by decide)).append (.fixed (by decide))).append alike_helperText
  · exact .empty

theorem alike_header {p q : Project}
    (h : p.tools.any Tool.isApiCall = q.tools.any Tool.isApiCall) :
    Alike (header p) (header q) := by
  have himport : importLine q = importLine p := by rw [importLine, importLine, h]
  have hhelper : helper q = helper p := by rw [helper, helper, h]
  unfold header
  rw [himport, hhelper]
  refine .append (AlikeBefore.append (.append (.append (.append (.append ?_ ?_) ?_) ?_) ?_)
    (.literal _ _) _ ?_) (alike_helper p)
  · exact .fixed (by decide)
  · exact alike_importLine p
  · exact .fixed (by decide)
  · exact .fixed (by decide)
  · exact .fixed (by decide)
  · exact .fixed (by decide) (by decide)

theorem alike_assembled {p q : Project} (hp : p.validate.problems = [])
    (hq : q.validate.problems = []) (h : p.tools.map Tool.outline = q.tools.map Tool.outline) :
    Alike (assembled p) (assembled q) := by
  have hany : p.tools.any Tool.isApiCall = q.tools.any Tool.isApiCall := by
    rw [any_isApiCall_eq, any_isApiCall_eq, h]
  have hblocks := alike_blocks (fun _ => Project.tool_accepted hp)
    (fun _ => Project.tool_accepted hq) h
  exact ((alike_header hany).append hblocks).append alike_footer

/-- **Free text cannot become code**: two projects without problems whose tools have the same
outlines give sources that differ in nothing but what their literals say, and neither source leaves
a literal open. -/
theorem skeleton_eq_of_outline_eq {p q : Project} (hp : p.validate.problems = [])
    (hq : q.validate.problems = []) (h : p.tools.map Tool.outline = q.tools.map Tool.outline) :
    ∃ s s' lexemes lexemes', source p = .ok s ∧ source q = .ok s' ∧
      scan s.toList = some lexemes ∧ scan s'.toList = some lexemes' ∧
      lexemes.map erased = lexemes'.map erased := by
  obtain ⟨k, hk, hk'⟩ := (alike_assembled hp hq h).skeleton_eq
  obtain ⟨lexemes, hscan, herased⟩ := Option.map_eq_some_iff.1 hk
  obtain ⟨lexemes', hscan', herased'⟩ := Option.map_eq_some_iff.1 hk'
  exact ⟨assembled p, assembled q, lexemes, lexemes', source_eq p, source_eq q, hscan, hscan',
    herased.trans herased'.symm⟩

/-- One tool whose texts try to leave their literals. -/
def hostile : Project where
  name := "\"); import os #"
  tools := [{ Tool.ofName "look-up" .api with
    description := some "\"\"\"\nimport os\\"
    inputSchema := .ofDocument [("properties", .obj [("q", .obj [
      ("description", .str "\\\"\"\"")])]), ("required", .arr [.str "q"])]
    handlerCode := some "https://x.test/\x7bq\x7d\\\", os.abort()" }]

/-- The same code as that of `hostile`, with nothing to say. -/
def harmless : Project where
  name := "Lookup"
  tools := [{ Tool.ofName "look up" .api with
    inputSchema := .ofDocument [("properties", .obj [("q", .obj [("type", .str "string")])]),
      ("required", .arr [.str "q"])]
    handlerCode := some "https://x.test/\x7bq\x7d" }]

theorem skeleton_hostile_eq : hostile.validate.problems = [] ∧ harmless.validate.problems = [] ∧
    ∃ s s' lexemes lexemes', source hostile = .ok s ∧ source harmless = .ok s' ∧
      scan s.toList = some lexemes ∧ scan s'.toList = some lexemes' ∧
      lexemes.map erased = lexemes'.map erased := by
  have hp : hostile.validate.problems = [] := by decide +kernel
  have hq : harmless.validate.problems = [] := by decide +kernel
  have houtline : hostile.tools.map Tool.outline = harmless.tools.map Tool.outline := by
    decide +kernel
  exact ⟨hp, hq, skeleton_eq_of_outline_eq hp hq houtline⟩

end Server

end ToolScaffold
