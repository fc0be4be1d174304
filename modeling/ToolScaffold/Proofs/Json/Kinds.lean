import ToolScaffold.Json.Reader.Record
import ToolScaffold.Proofs.Json.Nested
import ToolScaffold.Proofs.Json.Runs

/-!
# Values of one kind

The readers for the fields of a record go by the first character of a value, as the reader for all
values does (`run_value_gives`). So they take the values of their kind as they are, and no others
(`Takes`). A tag is taken by its name (`run_tag`); it may also be an object, which is passed over
then (`run_tag_eq_ok`).

`Covers` compares two readers for one field with each other.
-/

namespace ToolScaffold.Json.Reader

variable {levels : Nat} {s r : List Char} {v : Json}

/-! ## The first character -/

theorem run_start {c : Char} {tail : List Char} (hs : s.dropWhile isSpace = c :: tail) :
    start.run s = .ok (c, c :: tail) := by
  rw [start, run_bind_of_ok (run_next_eq s), hs]
  rfl

theorem run_start_nil (hs : s.dropWhile isSpace = []) :
    start.run s = .error ⟨.endInValue, [], 1⟩ := by
  rw [start, run_bind_of_ok (run_next_eq s), hs]
  rfl

theorem run_start_eq_ok {c : Char} {s' : List Char} (h : start.run s = .ok (c, s')) :
    ∃ tail, s.dropWhile isSpace = c :: tail ∧ s' = c :: tail := by
  cases hs : s.dropWhile isSpace with
  | nil =>
    rw [run_start_nil hs] at h
    cases h
  | cons c tail =>
    rw [run_start hs] at h
    cases h
    exact ⟨tail, rfl, rfl⟩

theorem run_wrongType_ne {expected : String} {first : Char} {a : Json} :
    (wrongType expected first : Reader Json).run s ≠ .ok (a, r) := by
  intro h
  unfold wrongType at h
  split_ifs at h
  · cases h
  · cases h
  · obtain ⟨_, _, _, h⟩ := run_bind_eq_ok_iff.1 h
    cases h

/-- The first character tells null and texts from other values. -/
theorem scalar_gives_iff (c : Char) :
    Gives (fun v => (v = .null ↔ c = 'n') ∧ ((∃ t, v = .str t) ↔ c = '"')) (scalar c) := by
  unfold scalar
  split_ifs with hn ht hf hminus hdigit hquote
  · subst hn
    exact .after fun _ => .after fun _ =>
      .pure ⟨iff_of_true rfl rfl, iff_of_false nofun (by decide)⟩
  · subst ht
    exact .after fun _ => .after fun _ =>
      .pure ⟨iff_of_false nofun hn, iff_of_false nofun (by decide)⟩
  · subst hf
    exact .after fun _ => .after fun _ =>
      .pure ⟨iff_of_false nofun hn, iff_of_false nofun (by decide)⟩
  · subst hminus
    exact .after fun _ => .after fun _ =>
      .pure ⟨iff_of_false nofun hn, iff_of_false nofun (by decide)⟩
  · have hquote : c ≠ '"' := ne_of_isDigit hdigit (by decide)
    exact .after fun _ => .pure ⟨iff_of_false nofun hn, iff_of_false nofun hquote⟩
  · exact .after fun _ => .after fun _ =>
      .pure ⟨iff_of_false nofun hn, iff_of_true ⟨_, rfl⟩ hquote⟩
  · exact .failAtNext _

/-- The first character tells null, texts and objects from other values. -/
theorem run_value_gives {c : Char} {tail : List Char} (hs : s.dropWhile isSpace = c :: tail)
    (h : (value levels).run s = .ok (v, r)) :
    (v = .null ↔ c = 'n') ∧ ((∃ t, v = .str t) ↔ c = '"') ∧
      ((∃ fields, v = .obj fields) ↔ c = '\x7b') := by
  rw [run_value_eq_ok_iff, hs] at h
  cases h with
  | list => exact ⟨iff_of_false nofun (by decide), iff_of_false nofun (by decide),
      iff_of_false nofun (by decide)⟩
  | object => exact ⟨iff_of_false nofun (by decide), iff_of_false nofun (by decide),
      iff_of_true ⟨_, rfl⟩ rfl⟩
  | scalar _ hobject hscalar =>
    obtain ⟨hnull, htext⟩ := scalar_gives_iff c _ _ _ hscalar
    refine ⟨hnull, htext, iff_of_false ?_ hobject⟩
    rintro ⟨fields, rfl⟩
    exact scalar_gives c _ _ _ hscalar

/-! ## Readers of one kind -/

/-- The reader takes the values that it accepts, and takes them as they are. -/
def Takes (levels : Nat) (accepts : Json → Prop) (x : Reader Json) : Prop :=
  ∀ s r v, x.run s = .ok (v, r) ↔ (value levels).run s = .ok (v, r) ∧ accepts v

theorem takes_value (levels : Nat) : Takes levels (fun _ => True) (value levels) :=
  fun _ _ _ => (and_iff_left True.intro).symm

/-- A reader that goes by the first character. -/
theorem takes_of_first {first : Char} {accepts : Json → Prop} {given : Reader Json}
    {expected : String}
    (hgiven : ∀ tail, given.run (first :: tail) = (valueAt levels first).run (first :: tail))
    (haccepts : ∀ {s : List Char} {c tail v r}, s.dropWhile isSpace = c :: tail →
      (value levels).run s = .ok (v, r) → (accepts v ↔ c = first)) :
    Takes levels accepts (do
      let c ← start
      if c = first then given else wrongType expected c) := by
  intro s r v
  rw [run_bind]
  cases hs : s.dropWhile isSpace with
  | nil =>
    rw [run_start_nil hs, run_value_nil hs]
    exact iff_of_false nofun nofun
  | cons c tail =>
    rw [run_start hs]
    dsimp only
    by_cases hc : c = first
    · subst hc
      rw [if_pos rfl, hgiven, ← run_value_cons hs]
      exact (and_iff_left_of_imp fun h => (haccepts hs h).2 rfl).symm
    · rw [if_neg hc]
      refine iff_of_false run_wrongType_ne ?_
      rintro ⟨h, haccepted⟩
      exact hc ((haccepts hs h).1 haccepted)

theorem takes_text (levels : Nat) : Takes levels (fun v => ∃ t, v = .str t) (text levels) := by
  refine takes_of_first (fun tail => ?_) fun hs h => (run_value_gives hs h).2.1
  cases levels <;> rfl

theorem takes_mapping (levels : Nat) :
    Takes levels (fun v => ∃ fields, v = .obj fields) (mapping levels) := by
  refine takes_of_first (fun tail => ?_) fun hs h => (run_value_gives hs h).2.2
  cases levels <;> rfl

theorem takes_optional {accepts : Json → Prop} {inner : Nat → Reader Json}
    (h : Takes levels accepts (inner levels)) :
    Takes levels (fun v => v = .null ∨ accepts v) (optional inner levels) := by
  intro s r v
  rw [optional, run_bind_of_ok (run_next_eq s)]
  by_cases hn : (s.dropWhile isSpace).head? = some 'n'
  · obtain ⟨tail, hs⟩ := List.head?_eq_some_iff.1 hn
    have hnull : (null "").run ('n' :: tail) = (value levels).run s := by
      rw [run_value_cons hs]
      cases levels <;> rfl
    rw [hs, List.head?_cons]
    change (null "").run ('n' :: tail) = .ok (v, r) ↔ _
    rw [hnull]
    exact (and_iff_left_of_imp fun hvalue => .inl ((run_value_gives hs hvalue).1.2 rfl)).symm
  · split
    · next heq => exact absurd heq hn
    · rw [h, run_value_dropWhile]
      refine and_congr_right fun hvalue => (or_iff_right fun hnull => ?_).symm
      cases hs : s.dropWhile isSpace with
      | nil =>
        rw [run_value_nil hs] at hvalue
        cases hvalue
      | cons c tail =>
        rw [hs, List.head?_cons, (run_value_gives hs hvalue).1.1 hnull] at hn
        exact hn rfl

/-! ## Tags -/

section Tag

variable {known : List String} {name : String}

theorem run_value_str_iff : (value levels).run s = .ok (.str name, r) ↔
    ∃ tail, s.dropWhile isSpace = '"' :: tail ∧ string.run tail = .ok (name, r) := by
  have hquote : ∀ tail, (valueAt levels '"').run ('"' :: tail) = .ok (.str name, r) ↔
      string.run tail = .ok (name, r) := by
    intro tail
    have hvalue : valueAt levels '"' = (do advance; return .str (← string)) := by
      cases levels <;> rfl
    rw [hvalue, run_bind_of_ok (run_advance _), run_bind_eq_ok_iff]
    constructor
    · rintro ⟨name', r', hstring, h⟩
      cases h
      exact hstring
    · intro h
      exact ⟨name, r, h, rfl⟩
  constructor
  · intro h
    cases hs : s.dropWhile isSpace with
    | nil =>
      rw [run_value_nil hs] at h
      cases h
    | cons c tail =>
      obtain rfl : c = '"' := (run_value_gives hs h).2.1.1 ⟨name, rfl⟩
      rw [run_value_cons hs] at h
      exact ⟨tail, rfl, (hquote tail).1 h⟩
  · rintro ⟨tail, hs, hstring⟩
    rw [run_value_cons hs]
    exact (hquote tail).2 hstring

/-- The name of a tag is a text that is known. -/
theorem run_tagName_eq_ok (h : (tagName known).run s = .ok (v, r)) :
    ∃ name ∈ known, v = .str name ∧ ∀ levels, (value levels).run s = .ok (v, r) := by
  obtain ⟨c, s', hstart, h⟩ := run_bind_eq_ok_iff.1 h
  obtain ⟨tail, hs, rfl⟩ := run_start_eq_ok hstart
  split at h
  · next hc =>
    rw [run_bind_of_ok (run_advance _)] at h
    obtain ⟨name, r', hstring, h⟩ := run_bind_eq_ok_iff.1 h
    split at h
    · next hknown =>
      cases h
      subst hc
      exact ⟨name, List.contains_iff_mem.1 hknown, rfl, fun levels =>
        run_value_str_iff.2 ⟨tail, hs, hstring⟩⟩
    · cases h
  · exact absurd h run_wrongType_ne

theorem run_null_eq_ok {expected : String} (h : (null expected).run s = .ok (v, r)) (levels : Nat) :
    (value levels).run s = .ok (.null, r) := by
  obtain ⟨c, s', hstart, h⟩ := run_bind_eq_ok_iff.1 h
  obtain ⟨tail, hs, rfl⟩ := run_start_eq_ok hstart
  split at h
  · next hc =>
    subst hc
    have hvalue : (valueAt levels 'n').run ('n' :: tail) = .ok (v, r) := by
      rw [← h]
      cases levels <;> rfl
    rw [← run_value_cons hs] at hvalue
    rwa [← (run_value_gives hs hvalue).1.2 rfl]
  · exact absurd h run_wrongType_ne

theorem run_tagName (hknown : name ∈ known) (h : (value levels).run s = .ok (.str name, r)) :
    (tagName known).run s = .ok (.str name, r) := by
  obtain ⟨tail, hs, hstring⟩ := run_value_str_iff.1 h
  rw [tagName, run_bind_of_ok (run_start hs), if_pos rfl, run_bind_of_ok (run_advance _),
    List.drop_one, List.tail_cons, run_bind_of_ok hstring,
    if_pos (List.contains_iff_mem.2 hknown), run_pure]

/-- The name of a tag that is known is taken. -/
theorem run_tag (hknown : name ∈ known) (h : (value levels).run s = .ok (.str name, r)) :
    (tag known levels).run s = .ok (.str name, r) := by
  obtain ⟨tail, hs, -⟩ := run_value_str_iff.1 h
  rw [← run_value_dropWhile, hs] at h
  rw [tag, run_bind_of_ok (run_start hs), if_pos rfl, run_tagName hknown h]

/-- A tag in object notation is an object. -/
theorem run_object_of_tag (h : (do
      advance
      let name ← tagName known
      colon
      let _ ← null "unit"
      match ← next with
      | none => fail .endInObject
      | some c =>
        if c = '\x7d' then
          advance
          return name
        else fail .notAValue : Reader Json).run ('\x7b' :: s) = .ok (v, r)) :
    ∃ fields, (object (value levels)).run ('\x7b' :: s) = .ok (.obj fields, r) := by
  rw [run_bind_of_ok (run_advance _)] at h
  obtain ⟨_, s₁, hname, h⟩ := run_bind_eq_ok_iff.1 h
  obtain ⟨_, s₂, hcolon, h⟩ := run_bind_eq_ok_iff.1 h
  obtain ⟨_, s₃, hnull, h⟩ := run_bind_eq_ok_iff.1 h
  rw [run_bind_of_ok (run_next_eq s₃)] at h
  obtain ⟨name, -, rfl, hvalue⟩ := run_tagName_eq_ok hname
  obtain ⟨tail, hs, hstring⟩ := run_value_str_iff.1 (hvalue 0)
  have hkey : key.run ('"' :: tail) = .ok (name, s₂) := by
    rw [key, run_bind_of_ok (run_advance _), List.drop_one, List.tail_cons, run_bind_of_ok hstring,
      run_bind_of_ok hcolon, run_pure]
  have hitem : (do objectBrackets.beforeFirst; objectItem (value levels) [] : Reader Fields).run
      ('"' :: tail) = .ok ([(name, .null)], s₃) := by
    have hcheck : objectBrackets.beforeFirst.run ('"' :: tail) = .ok ((), '"' :: tail) := rfl
    rw [run_bind_of_ok hcheck, objectItem, run_bind_of_ok hkey,
      run_bind_of_ok (run_null_eq_ok hnull levels)]
    rfl
  split at h
  · cases h
  · next c hc =>
    split at h
    · next hclose =>
      cases h
      obtain ⟨tail, hs₃⟩ := List.head?_eq_some_iff.1 hc
      subst hclose
      refine ⟨_, run_object_eq_ok_iff.2 ⟨_, .first hs (by decide) hitem (.close ?_), rfl⟩⟩
      rw [hs₃]
      rfl
    · cases h

/-- A tag that is taken is its name, or else an object stands in its place. -/
theorem run_tag_eq_ok (h : (tag known levels).run s = .ok (v, r)) :
    (value levels).run s = .ok (v, r) ∨ ∃ fields, (value levels).run s = .ok (.obj fields, r) := by
  obtain ⟨c, s', hstart, h⟩ := run_bind_eq_ok_iff.1 h
  obtain ⟨tail, hs, rfl⟩ := run_start_eq_ok hstart
  split at h
  · obtain ⟨name, -, -, hvalue⟩ := run_tagName_eq_ok h
    rw [← hs] at hvalue
    exact .inl ((run_value_dropWhile levels s).symm.trans (hvalue levels))
  · split at h
    · next hobject =>
      subst hobject
      rw [run_value_cons hs]
      cases levels with
      | zero => cases h
      | succ levels => exact .inr (run_object_of_tag h)
    · cases h

end Tag

/-! ## Two readers for one field -/

/-- Whatever `x` reads can be read as a value, and is that value and is read by `y` too if the value
is good. -/
def Covers (levels : Nat) (good : Json → Prop) (x y : Reader Json) : Prop :=
  ∀ s a r, x.run s = .ok (a, r) →
    ∃ v, (value levels).run s = .ok (v, r) ∧ (good v → a = v ∧ y.run s = .ok (a, r))

theorem covers_of_takes {good accepts accepts' : Json → Prop} {x y : Reader Json}
    (hx : Takes levels accepts x) (hy : Takes levels accepts' y)
    (h : ∀ v, accepts v → good v → accepts' v) : Covers levels good x y := by
  intro s a r hrun
  obtain ⟨hvalue, haccepted⟩ := (hx s r a).1 hrun
  exact ⟨a, hvalue, fun hgood => ⟨rfl, (hy s r a).2 ⟨hvalue, h a haccepted hgood⟩⟩⟩

end ToolScaffold.Json.Reader
