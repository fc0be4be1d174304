import ToolScaffold.Proofs.Text.Replace
import ToolScaffold.Proofs.UrlTemplate
import ToolScaffold.Server.Function

/-!
# Filling in placeholders

`fill` is what the function of the generated server that fills in placeholders gives: for each name
in order, it replaces every occurrence of the placeholder of that name in the text so far.
`substituted` is what an address template says: each placeholder that names a parameter stands for
the parameter's value, and all else for itself.

`filling_apiBody`: the two are the same for all values exactly if at most one placeholder is filled
in. With two of them, the placeholder of the second one may come in with the value of the first one,
and is then filled in too (`fill_pair_ne`). Without opening braces in the values, and in the address
outside of its placeholders, the two are the same.
-/

namespace ToolScaffold

open Text

namespace Piece

/-- What the part stands for when some parameters have values. -/
def resolve (params : List String) (values : String → String) : Piece → List Char
  | char c => [c]
  | placeholder name =>
    if String.ofList name ∈ params then (values (String.ofList name)).toList
    else (placeholder name).chars

end Piece

namespace Server

/-! ## The two readings -/

/-- One step of filling in: all placeholders of a name are replaced by a value. -/
def fillStep (values : String → String) (text : List Char) (key : String) : List Char :=
  replaceAll (Piece.placeholder key.toList).chars (values key).toList text

/-- The text with the placeholders of the names filled in, one name after the other. -/
def fill (values : String → String) (keys : List String) (text : String) : String :=
  String.ofList (keys.foldl (fillStep values) text.toList)

/-- The text with each placeholder of a parameter replaced by the parameter's value. -/
def substituted (params : List String) (values : String → String) (text : String) : String :=
  String.ofList ((Piece.ofChars text.toList).flatMap (Piece.resolve params values))

/-- What filling in these placeholders of a web address does. -/
structure Filling (endpoint : String) (schema : InputSchema) (keys : List String) : Prop where
  emitted : apiBody endpoint schema =
    ["url = " ++ fillName ++ "(" ++ literal endpoint ++ ", \x7b" ++
        ", ".intercalate (keys.map fun key => literal key ++ ": " ++ key) ++ "\x7d)",
      "response = " ++ requestsName ++ ".get(url)", "return response.text"]
  nodup : keys.Nodup
  always_iff : (∀ values, fill values keys endpoint = substituted schema.names values endpoint) ↔
    keys.length ≤ 1
  of_braceless : ∀ values, (∀ key ∈ keys, '\x7b' ∉ (values key).toList) →
    .char '\x7b' ∉ Piece.ofChars endpoint.toList →
    fill values keys endpoint = substituted schema.names values endpoint

/-! ## One placeholder -/

section Step

variable {name value : List Char}

theorem chars_placeholder_ne_nil : (Piece.placeholder name).chars ≠ [] := List.cons_ne_nil _ _

theorem replaceAll_placeholder (value rest : List Char) :
    replaceAll (Piece.placeholder name).chars value ((Piece.placeholder name).chars ++ rest) =
      value ++ replaceAll (Piece.placeholder name).chars value rest :=
  replaceAll_pattern_append chars_placeholder_ne_nil rest

/-- What has no opening brace is kept. -/
theorem replaceAll_braceless {front : List Char} (h : '\x7b' ∉ front) (value rest : List Char) :
    replaceAll (Piece.placeholder name).chars value (front ++ rest) =
      front ++ replaceAll (Piece.placeholder name).chars value rest :=
  replaceAll_append_of_not_mem h rest

/-- A placeholder of another name is kept. -/
theorem replaceAll_other {other : List Char} (hname : Piece.IsName name)
    (hother : Piece.IsName other) (hne : name ≠ other) (value rest : List Char) :
    replaceAll (Piece.placeholder name).chars value ((Piece.placeholder other).chars ++ rest) =
      (Piece.placeholder other).chars ++ replaceAll (Piece.placeholder name).chars value rest := by
  have hstarts : ¬(Piece.placeholder name).chars <+: (Piece.placeholder other).chars ++ rest :=
    fun hstarts => hne (hname.eq_of_prefix_append hother hstarts)
  have hinside : '\x7b' ∉ other ++ ['\x7d'] := by
    simp [hother.open_not_mem]
  have hchars : ∀ rest, (Piece.placeholder other).chars ++ rest =
      '\x7b' :: (other ++ ['\x7d'] ++ rest) := fun _ => rfl
  rw [hchars] at hstarts
  rw [hchars, hchars, replaceAll_cons_neg hstarts, replaceAll_braceless hinside]

end Step

section Resolve

variable {params : List String} {values : String → String} {name : List Char}

theorem resolve_of_mem (h : String.ofList name ∈ params) :
    Piece.resolve params values (.placeholder name) = (values (String.ofList name)).toList :=
  if_pos h

theorem resolve_of_not_mem (h : String.ofList name ∉ params) :
    Piece.resolve params values (.placeholder name) = (Piece.placeholder name).chars :=
  if_neg h

theorem flatMap_resolve_nil (ps : List Piece) :
    ps.flatMap (Piece.resolve [] values) = ps.flatMap Piece.chars := by
  refine List.flatMap_congr fun piece _ => ?_
  cases piece with
  | char c => rfl
  | placeholder name => exact resolve_of_not_mem List.not_mem_nil

/-- **A single step** does what the template says of its name, in every text. -/
theorem fillStep_parsed {key : String} (hkey : Piece.IsName key.toList) {cs : List Char}
    {ps : List Piece} (h : Piece.Parsed cs ps) :
    fillStep values cs key = ps.flatMap (Piece.resolve [key] values) := by
  unfold fillStep
  induction h with
  | nil => exact replaceAll_nil
  | @char c cs ps hc h ih =>
    rw [replaceAll_cons_neg (Piece.not_prefix_cons_of_ne hc _ _), ih]
    rfl
  | stray hstray h ih =>
    rw [replaceAll_cons_neg (hstray _ hkey), ih]
    rfl
  | @placeholder name cs ps hname h ih =>
    rw [List.flatMap_cons, ← ih]
    by_cases hmem : String.ofList name ∈ [key]
    · obtain rfl := List.mem_singleton.1 hmem
      rw [resolve_of_mem hmem, String.toList_ofList]
      exact replaceAll_placeholder _ _
    · have hne : key.toList ≠ name := by
        rintro rfl
        exact hmem (by simp)
      rw [resolve_of_not_mem hmem]
      exact replaceAll_other hkey hname hne _ _

/-- One more step after others, in a text in which each opening brace is that of a placeholder. -/
theorem fillStep_resolved {done : List String} (hdone : ∀ key ∈ done, '\x7b' ∉ (values key).toList)
    {key : String} (hkey : Piece.IsName key.toList) {cs : List Char} {ps : List Piece}
    (h : Piece.Parsed cs ps) (hstray : .char '\x7b' ∉ ps) :
    fillStep values (ps.flatMap (Piece.resolve done values)) key =
      ps.flatMap (Piece.resolve (done ++ [key]) values) := by
  unfold fillStep
  induction h with
  | nil => exact replaceAll_nil
  | @char c cs ps hc h ih =>
    rw [List.mem_cons, not_or] at hstray
    have hbraceless : '\x7b' ∉ [c] := by simpa using Ne.symm hc
    rw [List.flatMap_cons, List.flatMap_cons, Piece.resolve, replaceAll_braceless hbraceless,
      ih hstray.2]
    rfl
  | stray _ h ih => exact absurd List.mem_cons_self hstray
  | @placeholder name cs ps hname h ih =>
    rw [List.mem_cons, not_or] at hstray
    rw [List.flatMap_cons, List.flatMap_cons, ← ih hstray.2]
    by_cases hmem : String.ofList name ∈ done
    · rw [resolve_of_mem hmem, resolve_of_mem (List.mem_append_left [key] hmem)]
      exact replaceAll_braceless (hdone _ hmem) _ _
    · rw [resolve_of_not_mem hmem]
      by_cases heq : String.ofList name = key
      · subst heq
        rw [resolve_of_mem (by simp), String.toList_ofList]
        exact replaceAll_placeholder _ _
      · have hne : key.toList ≠ name := by
          rintro rfl
          exact heq String.ofList_toList
        rw [resolve_of_not_mem (by simp [hmem, heq])]
        exact replaceAll_other hkey hname hne _ _

/-- **All steps together**, in such a text. -/
theorem foldl_fillStep_resolved {keys done : List String}
    (hvalues : ∀ key ∈ done ++ keys, '\x7b' ∉ (values key).toList)
    (hkeys : ∀ key ∈ keys, Piece.IsName key.toList) {cs : List Char} {ps : List Piece}
    (h : Piece.Parsed cs ps) (hstray : .char '\x7b' ∉ ps) :
    keys.foldl (fillStep values) (ps.flatMap (Piece.resolve done values)) =
      ps.flatMap (Piece.resolve (done ++ keys) values) := by
  induction keys generalizing done with
  | nil => rw [List.foldl_nil, List.append_nil]
  | cons key keys ih =>
    have hsplit : done ++ key :: keys = (done ++ [key]) ++ keys := by simp
    have hdone : ∀ key ∈ done, '\x7b' ∉ (values key).toList :=
      fun other hother => hvalues other (List.mem_append_left _ hother)
    rw [hsplit] at hvalues ⊢
    rw [List.foldl_cons, fillStep_resolved hdone (hkeys key List.mem_cons_self) h hstray]
    exact ih hvalues fun other hother => hkeys other (List.mem_cons_of_mem key hother)

end Resolve

/-! ## Two placeholders -/

section Pair

variable {name : List Char}

/-- An empty pair of braces, the value from which nothing can be put together. -/
def emptyBraces : String := "\x7b\x7d"

/-- What stands at the front of a text from which a placeholder was removed stood there before,
unless it has an opening brace. -/
theorem prefix_of_prefix_replaceAll {front cs : List Char} (hopen : '\x7b' ∉ front)
    (h : front <+: replaceAll (Piece.placeholder name).chars emptyBraces.toList cs) :
    front <+: cs := by
  induction front generalizing cs with
  | nil => exact List.nil_prefix
  | cons d front ih =>
    rw [List.mem_cons, not_or] at hopen
    cases cs with
    | nil =>
      rw [replaceAll_nil] at h
      exact h
    | cons c rest =>
      by_cases hstarts : (Piece.placeholder name).chars <+: c :: rest
      · obtain ⟨after, hafter⟩ := hstarts
        rw [← hafter, replaceAll_placeholder] at h
        exact absurd (List.cons_prefix_cons.1 h).1.symm hopen.1
      · rw [replaceAll_cons_neg hstarts] at h
        obtain ⟨rfl, htail⟩ := List.cons_prefix_cons.1 h
        exact List.cons_prefix_cons.2 ⟨rfl, ih hopen.2 htail⟩

/-- No placeholder of the name is left. -/
theorem not_infix_replaceAll (hname : Piece.IsName name) (cs : List Char) :
    ¬(Piece.placeholder name).chars <:+:
      replaceAll (Piece.placeholder name).chars emptyBraces.toList cs := by
  induction cs using Text.replaceAll.induct (Piece.placeholder name).chars with
  | case1 =>
    rw [replaceAll_nil, List.infix_nil]
    exact chars_placeholder_ne_nil
  | case2 c rest h ih =>
    have hbraces : emptyBraces.toList = ['\x7b', '\x7d'] := rfl
    obtain ⟨d, tail, hd⟩ := List.exists_cons_of_ne_nil hname.ne_nil
    have hclose : d ≠ '\x7d' := fun heq => hname.close_not_mem (by simp [hd, heq])
    rw [replaceAll_cons_pos h]
    rw [hbraces] at ih ⊢
    rw [List.cons_append, List.singleton_append, List.infix_cons_iff, List.infix_cons_iff, hd]
    rw [hd] at ih
    rintro (hstarts | hstarts | hinfix)
    · have hinside := (List.cons_prefix_cons.1 hstarts).2
      exact hclose (List.cons_prefix_cons.1 hinside).1
    · exact absurd (List.cons_prefix_cons.1 hstarts).1 (by decide)
    · exact ih hinfix
  | case3 c rest h ih =>
    rw [replaceAll_cons_neg h, List.infix_cons_iff]
    rintro (hstarts | hinfix)
    · obtain ⟨hc, hinside⟩ := List.cons_prefix_cons.1 hstarts
      have hopen : '\x7b' ∉ name ++ ['\x7d'] := by simp [hname.open_not_mem]
      exact h (List.cons_prefix_cons.2 ⟨hc, prefix_of_prefix_replaceAll hopen hinside⟩)
    · exact ih hinfix

/-- The value of the first name is the placeholder of the second one, that of the second one is an
empty pair of braces, and all others stand for themselves. -/
def nested (first second key : String) : String :=
  if key = first then String.ofList (Piece.placeholder second.toList).chars
  else if key = second then emptyBraces
  else String.ofList (Piece.placeholder key.toList).chars

section Nested

variable {first second key : String}

theorem nested_first :
    nested first second first = String.ofList (Piece.placeholder second.toList).chars :=
  if_pos rfl

theorem nested_second (h : second ≠ first) : nested first second second = emptyBraces := by
  rw [nested, if_neg h, if_pos rfl]

theorem nested_other (hfirst : key ≠ first) (hsecond : key ≠ second) :
    nested first second key = String.ofList (Piece.placeholder key.toList).chars := by
  rw [nested, if_neg hfirst, if_neg hsecond]

end Nested

/-- Placeholders that stand for themselves are kept. -/
theorem foldl_fillStep_self {values : String → String} {keys : List String}
    (h : ∀ key ∈ keys, values key = String.ofList (Piece.placeholder key.toList).chars)
    (text : List Char) : keys.foldl (fillStep values) text = text := by
  induction keys with
  | nil => rfl
  | cons key keys ih =>
    have hstep : fillStep values text key = text := by
      rw [fillStep, h key List.mem_cons_self, String.toList_ofList]
      exact replaceAll_self chars_placeholder_ne_nil text
    rw [List.foldl_cons, hstep]
    exact ih fun other hother => h other (List.mem_cons_of_mem key hother)

section Nested

variable {first second : String} {keys params : List String} {endpoint : String}

/-- The placeholder that comes in with the first value is filled in. -/
theorem not_infix_fill_nested (hnodup : (first :: second :: keys).Nodup)
    (hsecond : Piece.IsName second.toList) :
    ¬(Piece.placeholder second.toList).chars <:+:
      (fill (nested first second) (first :: second :: keys) endpoint).toList := by
  obtain ⟨hfirstNotMem, hnodup⟩ := List.nodup_cons.1 hnodup
  obtain ⟨hsecondNotMem, -⟩ := List.nodup_cons.1 hnodup
  have hne : second ≠ first := by
    rintro rfl
    exact hfirstNotMem List.mem_cons_self
  have hself : ∀ key ∈ keys,
      nested first second key = String.ofList (Piece.placeholder key.toList).chars := by
    intro key hkey
    apply nested_other
    · rintro rfl
      exact hfirstNotMem (List.mem_cons_of_mem second hkey)
    · rintro rfl
      exact hsecondNotMem hkey
  rw [fill, String.toList_ofList, List.foldl_cons, List.foldl_cons, foldl_fillStep_self hself,
    fillStep, nested_second hne]
  exact not_infix_replaceAll hsecond _

/-- The template says that it stays. -/
theorem infix_substituted_nested (hfirst : .placeholder first.toList ∈ Piece.ofChars endpoint.toList)
    (hparam : first ∈ params) :
    (Piece.placeholder second.toList).chars <:+:
      (substituted params (nested first second) endpoint).toList := by
  obtain ⟨front, back, hpieces⟩ := List.append_of_mem hfirst
  have hmem : String.ofList first.toList ∈ params := by rwa [String.ofList_toList]
  rw [substituted, String.toList_ofList, hpieces, List.flatMap_append, List.flatMap_cons,
    resolve_of_mem hmem, String.ofList_toList, nested_first, String.toList_ofList,
    ← List.append_assoc]
  exact List.infix_append _ _ _

/-- **With two placeholders**, filling in is not always what the template says. -/
theorem fill_nested_ne (hnodup : (first :: second :: keys).Nodup)
    (hfirst : .placeholder first.toList ∈ Piece.ofChars endpoint.toList) (hparam : first ∈ params)
    (hsecond : Piece.IsName second.toList) :
    fill (nested first second) (first :: second :: keys) endpoint ≠
      substituted params (nested first second) endpoint := by
  intro heq
  have hinfix : (Piece.placeholder second.toList).chars <:+:
      (substituted params (nested first second) endpoint).toList :=
    infix_substituted_nested hfirst hparam
  rw [← heq] at hinfix
  exact not_infix_fill_nested hnodup hsecond hinfix

end Nested

end Pair

/-! ## Web addresses -/

section Endpoint

variable (endpoint : String) (schema : InputSchema)

/-- The placeholders of a web address that are filled in. -/
def filledKeys : List String := (UrlTemplate.parse endpoint).bound schema.names

variable {endpoint schema}

theorem isName_of_mem_filledKeys {key : String} (h : key ∈ filledKeys endpoint schema) :
    Piece.IsName key.toList :=
  Piece.isName_of_mem_ofChars (UrlTemplate.mem_bound_iff.1 h).1

/-- The parameters that have no placeholder do not matter. -/
theorem substituted_filledKeys (values : String → String) :
    substituted (filledKeys endpoint schema) values endpoint =
      substituted schema.names values endpoint := by
  unfold substituted
  refine congrArg String.ofList (List.flatMap_congr fun piece hpiece => ?_)
  cases piece with
  | char c => rfl
  | placeholder name =>
    have hmem : String.ofList name ∈ filledKeys endpoint schema ↔
        String.ofList name ∈ schema.names := by
      rw [filledKeys, UrlTemplate.mem_bound_iff, String.toList_ofList]
      exact and_iff_right hpiece
    unfold Piece.resolve
    simp only [hmem]

theorem fill_of_length_le_one {keys : List String} (h : keys.length ≤ 1)
    (hkeys : ∀ key ∈ keys, Piece.IsName key.toList) (values : String → String) :
    fill values keys endpoint = substituted keys values endpoint := by
  unfold fill substituted
  cases keys with
  | nil =>
    rw [List.foldl_nil, flatMap_resolve_nil, Piece.flatMap_chars_ofChars]
  | cons key keys =>
    obtain rfl : keys = [] := List.eq_nil_of_length_eq_zero (by simpa using h)
    rw [List.foldl_cons, List.foldl_nil,
      fillStep_parsed (hkeys key List.mem_cons_self) (Piece.parsed_ofChars _)]

theorem fill_of_braceless {keys : List String} {values : String → String}
    (hvalues : ∀ key ∈ keys, '\x7b' ∉ (values key).toList)
    (hkeys : ∀ key ∈ keys, Piece.IsName key.toList)
    (hstray : .char '\x7b' ∉ Piece.ofChars endpoint.toList) :
    fill values keys endpoint = substituted keys values endpoint := by
  have hrun : keys.foldl (fillStep values)
      ((Piece.ofChars endpoint.toList).flatMap (Piece.resolve [] values)) =
      (Piece.ofChars endpoint.toList).flatMap (Piece.resolve ([] ++ keys) values) :=
    foldl_fillStep_resolved hvalues hkeys (Piece.parsed_ofChars endpoint.toList) hstray
  rw [flatMap_resolve_nil, Piece.flatMap_chars_ofChars, List.nil_append] at hrun
  rw [fill, hrun, substituted]

/-- **Filling in the placeholders of a web address** gives what the template says, for all values,
exactly if at most one of them is filled in, and it does so for values without an opening brace if
the address has none outside of its placeholders. -/
theorem filling_apiBody (endpoint : String) (schema : InputSchema) :
    Filling endpoint schema (filledKeys endpoint schema) where
  emitted := rfl
  nodup := UrlTemplate.nodup_bound
  always_iff := by
    have hkeys : ∀ key ∈ filledKeys endpoint schema, Piece.IsName key.toList :=
      fun key => isName_of_mem_filledKeys
    constructor
    · intro hall
      by_contra hlength
      match hk : filledKeys endpoint schema with
      | [] => simp [hk] at hlength
      | [key] => simp [hk] at hlength
      | first :: second :: rest =>
        have hfirst := UrlTemplate.mem_bound_iff.1
          (show first ∈ filledKeys endpoint schema by simp [hk])
        have hnodup : (filledKeys endpoint schema).Nodup := UrlTemplate.nodup_bound
        have hsecond := hkeys second (by simp [hk])
        rw [hk] at hall hnodup
        exact fill_nested_ne hnodup hfirst.1 hfirst.2 hsecond (hall _)
    · intro hlength values
      rw [fill_of_length_le_one hlength hkeys, substituted_filledKeys]
  of_braceless values hvalues hstray := by
    have hkeys : ∀ key ∈ filledKeys endpoint schema, Piece.IsName key.toList :=
      fun key => isName_of_mem_filledKeys
    rw [fill_of_braceless hvalues hkeys hstray, substituted_filledKeys]

end Endpoint

/-- An address whose path is put together from two parameters. -/
def pairEndpoint : String := "https://x.test/\x7ba\x7d\x7bb\x7d"

def pairSchema : InputSchema := .ofDocument [("properties",
  .obj [("a", .obj [("type", .str "string")]), ("b", .obj [("type", .str "string")])])]

theorem filling_pair :
    (∀ key ∈ filledKeys pairEndpoint pairSchema, '\x7b' ∉ "x".toList) ∧
      .char '\x7b' ∉ Piece.ofChars pairEndpoint.toList ∧
      fill (fun _ => "x") (filledKeys pairEndpoint pairSchema) pairEndpoint =
        substituted pairSchema.names (fun _ => "x") pairEndpoint := by
  have hvalues : ∀ key ∈ filledKeys pairEndpoint pairSchema, '\x7b' ∉ "x".toList := by simp
  have hstray : .char '\x7b' ∉ Piece.ofChars pairEndpoint.toList := by decide +kernel
  exact ⟨hvalues, hstray,
    (filling_apiBody pairEndpoint pairSchema).of_braceless (fun _ => "x") hvalues hstray⟩

/-- The value of the first parameter is the placeholder of the second one. -/
def pairValues (key : String) : String := if key = "a" then "\x7bb\x7d" else "x"

theorem fill_pair_ne :
    apiBody pairEndpoint pairSchema =
        ["url = _fill_placeholders(" ++ literal pairEndpoint ++
            ", \x7b\"a\": a, \"b\": b\x7d)",
          "response = _requests.get(url)", "return response.text"] ∧
      fill pairValues ["a", "b"] pairEndpoint = "https://x.test/xx" ∧
      substituted pairSchema.names pairValues pairEndpoint = "https://x.test/\x7bb\x7dx" ∧
      fill pairValues ["a", "b"] pairEndpoint ≠
        substituted pairSchema.names pairValues pairEndpoint := by
  have hbody : apiBody pairEndpoint pairSchema =
      ["url = _fill_placeholders(" ++ literal pairEndpoint ++ ", \x7b\"a\": a, \"b\": b\x7d)",
        "response = _requests.get(url)", "return response.text"] := by decide +kernel
  have hfill : fill pairValues ["a", "b"] pairEndpoint = "https://x.test/xx" := by decide +kernel
  have hsubstituted : substituted pairSchema.names pairValues pairEndpoint =
      "https://x.test/\x7bb\x7dx" := by decide +kernel
  refine ⟨hbody, hfill, hsubstituted, ?_⟩
  rw [hfill, hsubstituted]
  decide

end Server

end ToolScaffold
