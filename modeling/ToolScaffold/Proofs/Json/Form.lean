import Mathlib.Data.List.Forall2
import ToolScaffold.Proofs.Json.Kinds
import ToolScaffold.Proofs.Json.Passing

/-!
# Records of a known form

A record in object notation is read along with the object that it is. Both readers go through the
text in lockstep (`Lockstep.run`), as a field that the form does not know is passed over up to where
its value ends. `Fits.run_read`: what was read are the fields of the object that the form knows, and
another form that has the same fields reads the same, if the values are good enough for it.
-/

namespace ToolScaffold.Json.Reader

variable {levels : Nat} {s r : List Char} {v : Json}

/-! ## Two readers side by side -/

section Lockstep

variable {σ τ : Type} {b : Brackets} {x y : σ → Reader σ} {z : τ → Reader τ}
  {Alike : σ → τ → Prop} {Good : τ → Prop}

/-- Wherever `x` and `z` both read an item they read the same text, and `y` reads what `x` does if
what has been read then is good. -/
def Lockstep (x y : σ → Reader σ) (z : τ → Reader τ) (Alike : σ → τ → Prop)
    (Good : τ → Prop) : Prop :=
  ∀ acc acc', Alike acc acc' → ∀ s a r a' r', (x acc).run s = .ok (a, r) →
    (z acc').run s = .ok (a', r') →
      r = r' ∧ Alike a a' ∧ (Good a' → Good acc' ∧ (y acc).run s = .ok (a, r))

theorem Lockstep.rest (hstep : Lockstep x y z Alike Good) {acc a : σ} {acc' a' : τ}
    {s r r' : List Char} (hx : b.Rest x acc s a r) (hz : b.Rest z acc' s a' r')
    (halike : Alike acc acc') :
    r = r' ∧ Alike a a' ∧ (Good a' → Good acc' ∧ b.Rest y acc s a r) := by
  induction hx generalizing acc' with
  | close hs =>
    cases hz with
    | close hs' =>
      cases hs.symm.trans hs'
      exact ⟨rfl, halike, fun hgood => ⟨hgood, .close hs⟩⟩
    | comma hs' hclose => exact absurd (List.cons.inj (hs'.symm.trans hs)).1 hclose
  | @comma acc acc₁ a s rest rest₁ r hs hclose hitem _ ih =>
    cases hz with
    | close hs' => exact absurd (List.cons.inj (hs.symm.trans hs')).1 hclose
    | comma hs' _ hitem' hmore' =>
      cases hs.symm.trans hs'
      obtain ⟨c, s₁, hnext, hitem⟩ := run_bind_eq_ok_iff.1 hitem
      obtain ⟨_, s₂, hcheck, hitem⟩ := run_bind_eq_ok_iff.1 hitem
      rw [run_bind_of_ok hnext, run_bind_of_ok hcheck] at hitem'
      obtain ⟨rfl, halike₁, hgood₁⟩ := hstep acc acc' halike _ _ _ _ _ hitem hitem'
      obtain ⟨rfl, halike', hgood'⟩ := ih hmore' halike₁
      refine ⟨rfl, halike', fun hgood => ?_⟩
      obtain ⟨hlater, hrest⟩ := hgood' hgood
      obtain ⟨hnow, hy⟩ := hgood₁ hlater
      refine ⟨hnow, .comma hs hclose ?_ hrest⟩
      rw [run_bind_of_ok hnext, run_bind_of_ok hcheck, hy]

/-- **Items are read side by side**, up to the closing bracket. -/
theorem Lockstep.run (hstep : Lockstep x y z Alike Good) {acc a : σ} {acc' a' : τ}
    {s r r' : List Char} (hx : b.Run x acc s a r) (hz : b.Run z acc' s a' r')
    (halike : Alike acc acc') : r = r' ∧ Alike a a' ∧ (Good a' → b.Run y acc s a r) := by
  cases hx with
  | empty hs =>
    cases hz with
    | empty hs' =>
      cases hs.symm.trans hs'
      exact ⟨rfl, halike, fun _ => .empty hs⟩
    | first hs' hclose =>
      cases hs.symm.trans hs'
      exact absurd rfl hclose
  | first hs hclose hitem hmore =>
    cases hz with
    | empty hs' =>
      cases hs.symm.trans hs'
      exact absurd rfl hclose
    | first hs' _ hitem' hmore' =>
      cases hs.symm.trans hs'
      obtain ⟨_, s₁, hcheck, hitem⟩ := run_bind_eq_ok_iff.1 hitem
      rw [run_bind_of_ok hcheck] at hitem'
      obtain ⟨rfl, halike₁, hgood₁⟩ := hstep acc acc' halike _ _ _ _ _ hitem hitem'
      obtain ⟨rfl, halike', hgood'⟩ := hstep.rest hmore hmore' halike₁
      refine ⟨rfl, halike', fun hgood => ?_⟩
      obtain ⟨hlater, hrest⟩ := hgood' hgood
      obtain ⟨-, hy⟩ := hgood₁ hlater
      refine .first hs hclose ?_ hrest
      rw [run_bind_of_ok hcheck, hy]

end Lockstep

/-! ## Records -/

namespace Form

variable {form : Form} {read read' : Fields}

/-- How a field of a record is read. -/
inductive FieldRun (form : Form) (levels : Nat) (read : Fields) (s : List Char) :
    Fields → List Char → Prop
  | known {name : String} {field : Field} {v : Json} {s' r : List Char}
    (hkey : key.run s = .ok (name, s'))
    (hfield : (form.fields.find? fun field => field.name = name) = some field)
    (hnew : Entries.get? read name = none) (hvalue : (field.value levels).run s' = .ok (v, r)) :
    FieldRun form levels read s (Entries.insert name v read) r
  | unknown {name : String} {s' r : List Char} (hkey : key.run s = .ok (name, s'))
    (hfield : (form.fields.find? fun field => field.name = name) = none)
    (hskip : skip.run s' = .ok ((), r)) : FieldRun form levels read s read r

theorem run_key_eq_ok_iff {name : String} : key.run s = .ok (name, r) ↔
    ∃ s', string.run (s.drop 1) = .ok (name, s') ∧ colon.run s' = .ok ((), r) := by
  rw [key, run_bind_of_ok (run_advance s), run_bind_eq_ok_iff]
  constructor
  · rintro ⟨name', s', hstring, h⟩
    obtain ⟨_, _, hcolon, h⟩ := run_bind_eq_ok_iff.1 h
    cases h
    exact ⟨s', hstring, hcolon⟩
  · rintro ⟨s', hstring, hcolon⟩
    exact ⟨name, s', hstring, by rw [run_bind_of_ok hcolon, run_pure]⟩

theorem run_namedField_eq_ok_iff : (form.namedField levels read).run s = .ok (read', r) ↔
    form.FieldRun levels read s read' r := by
  rw [namedField, run_bind_of_ok (run_advance s)]
  constructor
  · intro h
    obtain ⟨name, s₁, hstring, h⟩ := run_bind_eq_ok_iff.1 h
    split at h
    · next field hfield =>
      split at h
      · obtain ⟨_, _, _, h⟩ := run_bind_eq_ok_iff.1 h
        cases h
      · next hnew =>
        obtain ⟨_, s₂, hcolon, h⟩ := run_bind_eq_ok_iff.1 h
        obtain ⟨v, r', hvalue, h⟩ := run_bind_eq_ok_iff.1 h
        cases h
        exact .known (run_key_eq_ok_iff.2 ⟨s₁, hstring, hcolon⟩) hfield
          (Option.not_isSome_iff_eq_none.1 hnew) hvalue
    · next hfield =>
      obtain ⟨_, s₂, hcolon, h⟩ := run_bind_eq_ok_iff.1 h
      obtain ⟨_, r', hskip, h⟩ := run_bind_eq_ok_iff.1 h
      cases h
      exact .unknown (run_key_eq_ok_iff.2 ⟨s₁, hstring, hcolon⟩) hfield hskip
  · rintro (⟨hkey, hfield, hnew, hvalue⟩ | ⟨hkey, hfield, hskip⟩)
    · obtain ⟨s₁, hstring, hcolon⟩ := run_key_eq_ok_iff.1 hkey
      rw [run_bind_of_ok hstring, hfield]
      dsimp only
      rw [hnew, if_neg (by decide), run_bind_of_ok hcolon, run_bind_of_ok hvalue, run_pure]
    · obtain ⟨s₁, hstring, hcolon⟩ := run_key_eq_ok_iff.1 hkey
      rw [run_bind_of_ok hstring, hfield]
      dsimp only
      rw [run_bind_of_ok hcolon, run_bind_of_ok hskip, run_pure]

/-- The names of the fields in order. -/
def names (form : Form) : List String := form.fields.map Field.name

/-- The forms have the same fields, and those of `F` are covered by those of `G`. -/
def Fits (levels : Nat) (good : String → Json → Prop) (F G : Form) : Prop :=
  List.Forall₂ (fun f g => f.name = g.name ∧
    Covers levels (good f.name) (f.value levels) (g.value levels)) F.fields G.fields

/-- The fields that were read are those of the object, as far as they are good. -/
def Alike (form : Form) (good : String → Json → Prop) (read fields : Fields) : Prop :=
  ∀ name ∈ form.names, Option.Rel (fun a v => good name v → a = v) (Entries.get? read name)
    (Entries.get? fields name)

/-- The fields of the object that the form knows are good. -/
def AllGood (form : Form) (good : String → Json → Prop) (fields : Fields) : Prop :=
  ∀ name ∈ form.names, ∀ v, Entries.get? fields name = some v → good name v

theorem mem_names_of_find?_eq_some {name : String} {field : Field}
    (h : (form.fields.find? fun field => field.name = name) = some field) :
    name ∈ form.names := by
  have hname := List.find?_some h
  rw [decide_eq_true_eq] at hname
  exact List.mem_map.2 ⟨field, List.mem_of_find?_eq_some h, hname⟩

theorem not_mem_names_of_find?_eq_none {name : String}
    (h : (form.fields.find? fun field => field.name = name) = none) : name ∉ form.names := by
  intro hmem
  obtain ⟨field, hfield, heq⟩ := List.mem_map.1 hmem
  exact List.find?_eq_none.1 h field hfield (decide_eq_true heq)

section Fits

variable {F G : Form} {good : String → Json → Prop}

theorem Fits.find? (h : Fits levels good F G) (name : String) :
    Option.Rel (fun f g => Covers levels (good name) (f.value levels) (g.value levels))
      (F.fields.find? fun field => field.name = name)
      (G.fields.find? fun field => field.name = name) := by
  unfold Fits at h
  generalize F.fields = fs, G.fields = gs at h ⊢
  induction h with
  | nil => exact .none
  | @cons f g fs gs hfirst _ ih =>
    obtain ⟨heq, hcovers⟩ := hfirst
    rw [List.find?_cons, List.find?_cons, ← heq]
    by_cases hname : f.name = name
    · rw [decide_eq_true hname]
      exact .some (hname ▸ hcovers)
    · rw [decide_eq_false hname]
      exact ih

theorem Fits.find?_eq_some (h : Fits levels good F G) {name : String} {f : Field}
    (hf : (F.fields.find? fun field => field.name = name) = some f) :
    ∃ g, (G.fields.find? fun field => field.name = name) = some g ∧
      Covers levels (good name) (f.value levels) (g.value levels) := by
  have hrel := h.find? name
  rw [hf] at hrel
  generalize (G.fields.find? fun field => field.name = name) = found at hrel ⊢
  cases hrel with
  | some hcovers => exact ⟨_, rfl, hcovers⟩

theorem Fits.find?_eq_none (h : Fits levels good F G) {name : String}
    (hf : (F.fields.find? fun field => field.name = name) = none) :
    (G.fields.find? fun field => field.name = name) = none := by
  have hrel := h.find? name
  rw [hf] at hrel
  generalize (G.fields.find? fun field => field.name = name) = found at hrel ⊢
  cases hrel
  rfl

theorem Alike.get?_eq_none {form : Form} {read fields : Fields} (h : form.Alike good read fields)
    {name : String} (hname : name ∈ form.names) (hread : Entries.get? read name = none) :
    Entries.get? fields name = none := by
  have hrel := h name hname
  rw [hread] at hrel
  generalize Entries.get? fields name = found at hrel ⊢
  cases hrel
  rfl

/-- If they are all good, the fields of the object are those that were read. -/
theorem Alike.get?_eq {form : Form} {read fields : Fields} (h : form.Alike good read fields)
    (hgood : form.AllGood good fields) {name : String} (hname : name ∈ form.names) :
    Entries.get? read name = Entries.get? fields name := by
  have hrel := h name hname
  have hvalues := hgood name hname
  generalize Entries.get? read name = found, Entries.get? fields name = given at hrel hvalues ⊢
  cases hrel with
  | none => rfl
  | some heq => rw [heq (hvalues _ rfl)]

/-- A field that the form knows is read on both sides. -/
theorem Alike.insert {form : Form} {read fields : Fields} {name : String} {a v : Json}
    (h : form.Alike good read fields) (hv : good name v → a = v) :
    form.Alike good (Entries.insert name a read) (Entries.insert name v fields) := by
  intro other hother
  by_cases heq : other = name
  · subst heq
    rw [Entries.get?_insert_self, Entries.get?_insert_self]
    exact .some hv
  · rw [Entries.get?_insert_of_ne heq, Entries.get?_insert_of_ne heq]
    exact h other hother

/-- A field that the form does not know makes no difference. -/
theorem Alike.insert_unknown {form : Form} {read fields : Fields} {name : String} {v : Json}
    (h : form.Alike good read fields) (hname : name ∉ form.names) :
    form.Alike good read (Entries.insert name v fields) := by
  intro other hother
  rw [Entries.get?_insert_of_ne (ne_of_mem_of_not_mem hother hname)]
  exact h other hother

/-- Fields that are good were good before a new one was written. -/
theorem AllGood.of_insert {form : Form} {fields : Fields} {name : String} {v : Json}
    (h : form.AllGood good (Entries.insert name v fields))
    (hnew : name ∈ form.names → Entries.get? fields name = none) : form.AllGood good fields := by
  intro other hother w hw
  have hne : other ≠ name := by
    rintro rfl
    rw [hnew hother] at hw
    cases hw
  exact h other hother w ((Entries.get?_insert_of_ne hne).trans hw)

theorem Fits.lockstep (h : Fits levels good F G) :
    Lockstep (F.namedField levels) (G.namedField levels) (objectItem (value levels))
      (F.Alike good) (F.AllGood good) := by
  intro read fields halike s read' r fields' r' hread hobject
  obtain ⟨name, s', hkey, hobject⟩ := run_bind_eq_ok_iff.1 hobject
  obtain ⟨v, r₂, hvalue, hobject⟩ := run_bind_eq_ok_iff.1 hobject
  cases hobject
  rcases run_namedField_eq_ok_iff.1 hread with ⟨hkey', hf, hnew, hrun⟩ | ⟨hkey', hf, hskip⟩
  · cases hkey.symm.trans hkey'
    obtain ⟨g, hg, hcovers⟩ := h.find?_eq_some hf
    obtain ⟨w, hw, hgoodv⟩ := hcovers _ _ _ hrun
    cases hw.symm.trans hvalue
    refine ⟨rfl, halike.insert fun hgood => (hgoodv hgood).1, fun hgood => ⟨?_, ?_⟩⟩
    · exact hgood.of_insert fun hname => halike.get?_eq_none hname hnew
    · have hnow := hgood name (mem_names_of_find?_eq_some hf) v Entries.get?_insert_self
      exact run_namedField_eq_ok_iff.2 (.known hkey hg hnew (hgoodv hnow).2)
  · cases hkey.symm.trans hkey'
    cases hskip.symm.trans (run_skip hvalue)
    have hname := not_mem_names_of_find?_eq_none hf
    refine ⟨rfl, halike.insert_unknown hname, fun hgood => ⟨?_, ?_⟩⟩
    · exact hgood.of_insert fun h => absurd h hname
    · exact run_namedField_eq_ok_iff.2 (.unknown hkey (h.find?_eq_none hf) hskip)

theorem run_read_eq_ok_iff {tail : List Char} (hs : s.dropWhile isSpace = '\x7b' :: tail) :
    (F.read (levels + 1)).run s = .ok (v, r) ↔
      ∃ read, objectBrackets.Run (F.namedField levels) [] tail read r ∧ F.check read = .ok () ∧
        v = .obj read := by
  rw [Form.read, run_bind_of_ok (run_start hs), if_pos rfl, nested, run_bind_of_ok (run_advance _),
    List.drop_one, List.tail_cons]
  constructor
  · intro h
    obtain ⟨read, r', hitems, h⟩ := run_bind_eq_ok_iff.1 h
    obtain ⟨_, r'', hchecked, h⟩ := run_bind_eq_ok_iff.1 h
    cases h
    obtain ⟨hcheck, rfl⟩ := run_ofExcept_eq_ok_iff.1 hchecked
    exact ⟨read, run_items_eq_ok_iff.1 hitems, hcheck, rfl⟩
  · rintro ⟨read, hitems, hcheck, rfl⟩
    rw [run_bind_of_ok (run_items_eq_ok_iff.2 hitems), hcheck]
    rfl

/-- **One form in place of another**: where the text is an object whose fields are good, the record
that one form reads is read by the other, too, and its fields are those of the object. -/
theorem Fits.run_read (h : Fits levels good F G) {fields : Fields} {r' : List Char}
    (hF : (F.read (levels + 1)).run s = .ok (v, r))
    (hvalue : (value (levels + 1)).run s = .ok (.obj fields, r'))
    (hgood : F.AllGood good fields) :
    ∃ read, v = .obj read ∧ F.check read = .ok () ∧
      (∀ name ∈ F.names, Entries.get? read name = Entries.get? fields name) ∧
      (G.check read = .ok () → (G.read (levels + 1)).run s = .ok (.obj read, r)) := by
  rw [run_value_eq_ok_iff] at hvalue
  generalize hs : s.dropWhile isSpace = t at hvalue
  cases hvalue with
  | object hobject =>
    obtain ⟨read, hread, hcheck, rfl⟩ := (run_read_eq_ok_iff hs).1 hF
    have hempty : F.Alike good [] [] := fun name _ => .none
    obtain ⟨rfl, halike, hother⟩ := h.lockstep.run hread hobject hempty
    refine ⟨read, rfl, hcheck, fun name hname => halike.get?_eq hgood hname, fun hcheck' => ?_⟩
    exact (run_read_eq_ok_iff hs).2 ⟨read, hother hgood, hcheck', rfl⟩
  | scalar hlist hobject hscalar => exact (scalar_gives _ _ _ _ hscalar).elim

end Fits

end Form

end ToolScaffold.Json.Reader
