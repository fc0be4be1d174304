import ToolScaffold.Yaml.Node
import ToolScaffold.Yaml.Token

/-!
# Nodes from tokens

Builds the node of a document from its tokens. Every node takes at least one token, which is what
ends the recursion; a place for a node where none stands holds an empty plain scalar.
-/

namespace ToolScaffold.Yaml

/-- The tokens that are left, and what the text has declared so far. -/
structure Parser where
  tokens : List Token
  /-- What the handles of tags stand for. -/
  handles : List (String × String)
  /-- The anchors that are in force, by name. -/
  anchors : List (String × Nat)

namespace Parser

def size (s : Parser) : Nat := s.tokens.length

/-- Goes on with other tokens. -/
def next (s : Parser) (rest : List Token) : Parser := { s with tokens := rest }

@[simp] theorem tokens_next (s : Parser) (rest : List Token) : (s.next rest).tokens = rest := rfl

@[simp] theorem size_next (s : Parser) (rest : List Token) : (s.next rest).size = rest.length := rfl

theorem size_of_tokens {s : Parser} {t : Token} {rest : List Token} (h : s.tokens = t :: rest) :
    s.size = rest.length + 1 := by
  simp [size, h]

/-- A value, and the parser after it, which has fewer tokens left than `s`. -/
abbrev Parsed (α : Type) (s : Parser) := Option { r : α × Parser // r.2.size < s.size }

/-- A value, and the parser after it, which has no more tokens left than `s`. -/
abbrev Passed (α : Type) (s : Parser) := Option { r : α × Parser // r.2.size ≤ s.size }

/-! ## Properties -/

/-- Gives the anchor its number. -/
def declare (s : Parser) (name : String) : Nat × Parser :=
  let n := s.anchors.length
  (n, { s with anchors := (name, n) :: s.anchors.filter fun entry => entry.1 ≠ name })

/-- The full tag: a suffix alone, or one that continues what a declared handle stands for. -/
def fullTag (s : Parser) (handle suffix : String) : Option String :=
  if handle.isEmpty then some suffix
  else (s.handles.find? fun entry => entry.1 = handle).map fun entry => entry.2 ++ suffix

/-- The anchor and the tag before the content of a node, in either order. Each takes a token. -/
def properties (s : Parser) :
    Option { r : Properties × Parser // r.2.size + r.1.count ≤ s.size } :=
  match h : s.tokens with
  | .anchor name :: .tag handle suffix :: rest => do
    let (n, t) := s.declare name
    let tag ← s.fullTag handle suffix
    return ⟨(⟨some n, some tag⟩, t.next rest), by simp [size, h, Properties.count]⟩
  | .tag handle suffix :: .anchor name :: rest => do
    let (n, t) := s.declare name
    let tag ← s.fullTag handle suffix
    return ⟨(⟨some n, some tag⟩, t.next rest), by simp [size, h, Properties.count]⟩
  | .anchor name :: rest =>
    let (n, t) := s.declare name
    some ⟨(⟨some n, none⟩, t.next rest), by simp [size, h, Properties.count]⟩
  | .tag handle suffix :: rest => do
    let tag ← s.fullTag handle suffix
    return ⟨(⟨none, some tag⟩, s.next rest), by simp [size, h, Properties.count]⟩
  | _ => some ⟨(.none, s), Nat.le_refl _⟩

/-! ## Nodes -/

/-- What stands for a missing node. -/
def missing : Node := .scalar .none true ""

/-- A scalar with its properties. The tag that is a mark alone says that the scalar has no tag. -/
def scalarNode (p : Properties) (isPlain : Bool) (text : String) : Node :=
  if p.tag = some "!" then .scalar ⟨p.anchor, none⟩ isPlain text
  else .scalar p isPlain text

/-- Whether a token starts the content of a node. Block collections are allowed only outside of
brackets, and a sequence that is not indented only in a block mapping. -/
def startsContent (inBlock unindented : Bool) (t : Token) : Bool :=
  match t with
  | .scalar .. => true
  | .flowSequenceStart => true
  | .flowMappingStart => true
  | .blockSequenceStart => inBlock
  | .blockMappingStart => inBlock
  | .blockEntry => unindented
  | _ => false

/-- Whether the next token is one of those that end a member of a collection. -/
def isAt (s : Parser) (ends : List Token) : Bool :=
  match s.tokens with
  | t :: _ => ends.contains t
  | [] => false

/-- The tokens that end an item of a block sequence. -/
def itemEnds (indented : Bool) : List Token :=
  if indented then [.blockEntry, .blockEnd] else [.blockEntry, .key, .value, .blockEnd]

def fieldEnds : List Token := [.key, .value, .blockEnd]

mutual

def node (inBlock unindented : Bool) (s : Parser) : Parsed Node s :=
  match hs : s.tokens with
  | [] => none
  | .alias name :: rest =>
    match s.anchors.find? fun entry => entry.1 = name with
    | some (_, n) => some ⟨(.alias n, s.next rest), by simp [size_of_tokens hs]⟩
    | none => none
  | _ =>
    match s.properties with
    | none => none
    | some ⟨(p, t), hp⟩ =>
      if (t.tokens.head?.any (startsContent inBlock unindented)) then
        match content p t with
        | none => none
        | some ⟨(n, u), hu⟩ => some ⟨(n, u), by simp only at *; omega⟩
      else if hc : p.count = 0 then none
      else some ⟨(.scalar p true "", t), by simp only at *; omega⟩
termination_by (s.size, 1)
decreasing_by
  simp only at *
  simp only [Prod.lex_def]
  omega

/-- A node, or nothing for one if a token that ends it comes next. -/
def member (inBlock unindented : Bool) (ends : List Token) (s : Parser) : Passed Node s :=
  if s.isAt ends then some ⟨(missing, s), Nat.le_refl _⟩
  else
    match node inBlock unindented s with
    | none => none
    | some ⟨r, h⟩ => some ⟨r, Nat.le_of_lt h⟩
termination_by (s.size, 2)

def content (p : Properties) (s : Parser) : Parsed Node s :=
  match hs : s.tokens with
  | .scalar isPlain text :: rest =>
    some ⟨(scalarNode p isPlain text, s.next rest), by simp [size_of_tokens hs]⟩
  | .flowSequenceStart :: rest =>
    match flowItems (s.next rest) with
    | none => none
    | some ⟨(items, t), ht⟩ =>
      some ⟨(.sequence p items, t), by have := size_of_tokens hs; simp at *; omega⟩
  | .flowMappingStart :: rest =>
    match flowEntries (s.next rest) with
    | none => none
    | some ⟨(entries, t), ht⟩ =>
      some ⟨(.mapping p entries, t), by have := size_of_tokens hs; simp at *; omega⟩
  | .blockEntry :: rest =>
    match blockItems false (s.next rest) with
    | none => none
    | some ⟨(items, t), ht⟩ =>
      some ⟨(.sequence p items, t), by have := size_of_tokens hs; simp at *; omega⟩
  | .blockSequenceStart :: .blockEntry :: rest =>
    match blockItems true (s.next rest) with
    | none => none
    | some ⟨(items, t), ht⟩ =>
      match hw : t.tokens with
      | .blockEnd :: left =>
        some ⟨(.sequence p items, t.next left), by
          have := size_of_tokens hs; have := size_of_tokens hw; simp at *; omega⟩
      | _ => none
  | .blockMappingStart :: .key :: rest =>
    match blockEntries (s.next rest) with
    | none => none
    | some ⟨(entries, t), ht⟩ =>
      match hw : t.tokens with
      | .blockEnd :: left =>
        some ⟨(.mapping p entries, t.next left), by
          have := size_of_tokens hs; have := size_of_tokens hw; simp at *; omega⟩
      | _ => none
  | _ => none
termination_by (s.size, 0)
decreasing_by all_goals
  have := size_of_tokens hs
  simp [Prod.lex_def] at *
  omega

/-- The items of a block sequence, after the sign of the first. -/
def blockItems (indented : Bool) (s : Parser) : Passed (List Node) s :=
  match member true false (itemEnds indented) s with
  | none => none
  | some ⟨(item, t), ht⟩ =>
    match hs : t.tokens with
    | .blockEntry :: rest =>
      match blockItems indented (t.next rest) with
      | none => none
      | some ⟨(more, u), hu⟩ =>
        some ⟨(item :: more, u), by have := size_of_tokens hs; simp at *; omega⟩
    | _ => some ⟨([item], t), ht⟩
termination_by (s.size, 3)
decreasing_by all_goals
  first
  | (have h := size_of_tokens hs; simp [Prod.lex_def] at *; omega)
  | simp [Prod.lex_def]

/-- The value of a block mapping's key, after the key. -/
def blockValue (s : Parser) : Passed Node s :=
  match hs : s.tokens with
  | .value :: rest =>
    match member true true fieldEnds (s.next rest) with
    | none => none
    | some ⟨(n, t), ht⟩ => some ⟨(n, t), by have := size_of_tokens hs; simp at *; omega⟩
  | _ => some ⟨(missing, s), Nat.le_refl _⟩
termination_by (s.size, 3)
decreasing_by
  have := size_of_tokens hs
  simp [Prod.lex_def] at *
  omega

/-- The entries of a block mapping, after the sign of the first key. -/
def blockEntries (s : Parser) : Passed (List (Node × Node)) s :=
  match member true true fieldEnds s with
  | none => none
  | some ⟨(key, t), ht⟩ =>
    match blockValue t with
    | none => none
    | some ⟨(value, u), hu⟩ =>
      match hs : u.tokens with
      | .key :: rest =>
        match blockEntries (u.next rest) with
        | none => none
        | some ⟨(more, w), hw⟩ =>
          some ⟨((key, value) :: more, w), by have := size_of_tokens hs; simp at *; omega⟩
      | _ => some ⟨([(key, value)], u), Nat.le_trans hu ht⟩
termination_by (s.size, 4)
decreasing_by all_goals
  first
  | (have h := size_of_tokens hs; simp [Prod.lex_def] at *; omega)
  | (simp [Prod.lex_def] at *; omega)
  | simp [Prod.lex_def]

/-- The value of a key between brackets, after the key. -/
def flowValue (close : Token) (s : Parser) : Passed Node s :=
  match hs : s.tokens with
  | .value :: rest =>
    match member false false [.flowEntry, close] (s.next rest) with
    | none => none
    | some ⟨(n, t), ht⟩ => some ⟨(n, t), by have := size_of_tokens hs; simp at *; omega⟩
  | _ => some ⟨(missing, s), Nat.le_refl _⟩
termination_by (s.size, 3)
decreasing_by
  have := size_of_tokens hs
  simp [Prod.lex_def] at *
  omega

/-- An item of a sequence in brackets: a node, or a mapping of a single key. A missing key of such a
mapping takes the token that stands in its place. -/
def flowItem (s : Parser) : Parsed Node s :=
  match hs : s.tokens with
  | .key :: rest =>
    let ends : List Token := [.value, .flowEntry, .flowSequenceEnd]
    if (s.next rest).isAt ends then
      match flowValue .flowSequenceEnd (s.next (rest.drop 1)) with
      | none => none
      | some ⟨(value, t), ht⟩ =>
        some ⟨(.mapping .none [(missing, value)], t), by
          have := size_of_tokens hs; simp at *; omega⟩
    else
      match node false false (s.next rest) with
      | none => none
      | some ⟨(key, t), ht⟩ =>
        match flowValue .flowSequenceEnd t with
        | none => none
        | some ⟨(value, u), hu⟩ =>
          some ⟨(.mapping .none [(key, value)], u), by
            have := size_of_tokens hs; simp at *; omega⟩
  | _ => node false false s
termination_by (s.size, 4)
decreasing_by all_goals
  first
  | (have h := size_of_tokens hs; simp [Prod.lex_def] at *; omega)
  | simp [Prod.lex_def]

/-- The items of a sequence in brackets, from a place where an item may stand to the closing
bracket. -/
def flowItems (s : Parser) : Parsed (List Node) s :=
  match hs : s.tokens with
  | .flowSequenceEnd :: rest => some ⟨([], s.next rest), by simp [size_of_tokens hs]⟩
  | _ =>
    match flowItem s with
    | none => none
    | some ⟨(item, t), ht⟩ =>
      match hw : t.tokens with
      | .flowSequenceEnd :: rest =>
        some ⟨([item], t.next rest), by have := size_of_tokens hw; simp at *; omega⟩
      | .flowEntry :: rest =>
        match flowItems (t.next rest) with
        | none => none
        | some ⟨(more, u), hu⟩ =>
          some ⟨(item :: more, u), by have := size_of_tokens hw; simp at *; omega⟩
      | _ => none
termination_by (s.size, 5)
decreasing_by all_goals
  first
  | (have h := size_of_tokens hw; simp [Prod.lex_def] at *; omega)
  | simp [Prod.lex_def]

/-- An entry of a mapping in brackets. A node without the sign of a key is a key without a value. -/
def flowField (s : Parser) : Parsed (Node × Node) s :=
  match hs : s.tokens with
  | .key :: rest =>
    match member false false [.value, .flowEntry, .flowMappingEnd] (s.next rest) with
    | none => none
    | some ⟨(key, t), ht⟩ =>
      match flowValue .flowMappingEnd t with
      | none => none
      | some ⟨(value, u), hu⟩ =>
        some ⟨((key, value), u), by have := size_of_tokens hs; simp at *; omega⟩
  | _ =>
    match node false false s with
    | none => none
    | some ⟨(key, t), ht⟩ => some ⟨((key, missing), t), ht⟩
termination_by (s.size, 4)
decreasing_by all_goals
  first
  | (have h := size_of_tokens hs; simp [Prod.lex_def] at *; omega)
  | simp [Prod.lex_def]

/-- The entries of a mapping in brackets, from a place where an entry may stand to the closing
bracket. -/
def flowEntries (s : Parser) : Parsed (List (Node × Node)) s :=
  match hs : s.tokens with
  | .flowMappingEnd :: rest => some ⟨([], s.next rest), by simp [size_of_tokens hs]⟩
  | _ =>
    match flowField s with
    | none => none
    | some ⟨(entry, t), ht⟩ =>
      match hw : t.tokens with
      | .flowMappingEnd :: rest =>
        some ⟨([entry], t.next rest), by have := size_of_tokens hw; simp at *; omega⟩
      | .flowEntry :: rest =>
        match flowEntries (t.next rest) with
        | none => none
        | some ⟨(more, u), hu⟩ =>
          some ⟨(entry :: more, u), by have := size_of_tokens hw; simp at *; omega⟩
      | _ => none
termination_by (s.size, 5)
decreasing_by all_goals
  first
  | (have h := size_of_tokens hw; simp [Prod.lex_def] at *; omega)
  | simp [Prod.lex_def]

end

/-! ## Documents -/

/-- The handles that stand for something without being declared. -/
def defaultHandles : List (String × String) := [("!", "!"), ("!!", "tag:yaml.org,2002:")]

/-- Reads the directives before a document. The version may be given once, and so may each
handle. -/
def directives (versionSeen : Bool) (handles : List (String × String)) :
    List Token → Option (List (String × String) × List Token)
  | .version major minor :: rest =>
    if versionSeen ∨ major ≠ 1 ∨ (minor ≠ 1 ∧ minor ≠ 2) then none
    else directives true handles rest
  | .tagDirective handle expansion :: rest =>
    if handles.any fun entry => entry.1 = handle then none
    else directives versionSeen (handles ++ [(handle, expansion)]) rest
  | tokens => some (handles, tokens)

end Parser

/-- The node of the document that the tokens hold, none if they hold no document at all. More than
one document is refused. -/
def Node.ofTokens? (tokens : List Token) : Option (Option Node) :=
  match tokens with
  | [] => some none
  | first :: _ => do
    let (handles, left) ← Parser.directives false [] tokens
    let isMarked :=
      match first with
      | .version .. => true
      | .tagDirective .. => true
      | .documentStart => true
      | _ => false
    let s (tokens : List Token) : Parser := ⟨tokens, handles ++ Parser.defaultHandles, []⟩
    let (node, left) ←
      if isMarked then
        match left with
        | .documentStart :: rest =>
          if rest.isEmpty ∨ (s rest).isAt [.documentStart, .documentEnd] then
            pure (Parser.missing, rest)
          else
            (Parser.node true false (s rest)).map fun r => (r.val.1, r.val.2.tokens)
        | _ => none
      else (Parser.node true false (s left)).map fun r => (r.val.1, r.val.2.tokens)
    if left.all (· == .documentEnd) then some (some node) else none

end ToolScaffold.Yaml
