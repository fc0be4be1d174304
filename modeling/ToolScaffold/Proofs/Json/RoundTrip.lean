import ToolScaffold.Proofs.Json.Nested
import ToolScaffold.Proofs.Json.Runs

/-!
# Reading back what was written

`read_of_kept`: a value whose numbers are read back one by one (`Kept`), written in either layout,
is read back as it was, if it nests no deeper than documents may and has no key twice.
`read_ofList_chars`: in particular this holds if all numbers are integers of 64 bits (`Integral`).

The loops over items are treated once for lists and objects: items that can be read one by one
(`Brackets.Readable`) can be read between brackets (`run_items`).
-/

namespace ToolScaffold.Json

/-- All numbers of the value are integers of 64 bits. -/
inductive Integral : Json → Prop
  | null : Integral .null
  | bool (b : Bool) : Integral (.bool b)
  | num {n : Number} (hn : n.Integral) : Integral (.num n)
  | str (s : String) : Integral (.str s)
  | arr {items : List Json} (hitems : ∀ v ∈ items, Integral v) : Integral (.arr items)
  | obj {fields : Fields} (hfields : ∀ field ∈ fields, Integral field.2) : Integral (.obj fields)

theorem integral_num_iff {n : Number} : Integral (.num n) ↔ n.Integral := by
  constructor
  · rintro (_ | _ | hn)
    exact hn
  · exact .num

theorem integral_arr_iff {items : List Json} :
    Integral (.arr items) ↔ ∀ v ∈ items, Integral v := by
  constructor
  · rintro (_ | _ | _ | _ | hitems)
    exact hitems
  · exact .arr

theorem integral_obj_iff {fields : Fields} :
    Integral (.obj fields) ↔ ∀ field ∈ fields, Integral field.2 := by
  constructor
  · rintro (_ | _ | _ | _ | _ | hfields)
    exact hfields
  · exact .obj

/-- All numbers of the value are read back as they were written. -/
inductive Kept : Json → Prop
  | null : Kept .null
  | bool (b : Bool) : Kept (.bool b)
  | num {n : Number} (hn : n.Kept) : Kept (.num n)
  | str (s : String) : Kept (.str s)
  | arr {items : List Json} (hitems : ∀ v ∈ items, Kept v) : Kept (.arr items)
  | obj {fields : Fields} (hfields : ∀ field ∈ fields, Kept field.2) : Kept (.obj fields)

theorem kept_arr_iff {items : List Json} : Kept (.arr items) ↔ ∀ v ∈ items, Kept v := by
  constructor
  · rintro (_ | _ | _ | _ | hitems)
    exact hitems
  · exact .arr

theorem kept_obj_iff {fields : Fields} : Kept (.obj fields) ↔ ∀ field ∈ fields, Kept field.2 := by
  constructor
  · rintro (_ | _ | _ | _ | _ | hfields)
    exact hfields
  · exact .obj

theorem Integral.kept {v : Json} (h : Integral v) : Kept v := by
  induction h with
  | null => exact .null
  | bool b => exact .bool b
  | num hn => exact .num hn.kept
  | str s => exact .str s
  | arr _ ih => exact .arr ih
  | obj _ ih => exact .obj ih

/-- The item can be read, be it the first or after a comma. -/
structure Brackets.Readable {σ α : Type} (b : Brackets) (item : σ → Reader σ)
    (print : α → List Char) (add : σ → α → σ) (x : α) : Prop where
  begins : ∃ c tail, print x = c :: tail ∧ Reader.isSpace c = false ∧ c ≠ b.close ∧ ∀ s,
    b.beforeFirst.run (c :: s) = .ok ((), c :: s) ∧ b.afterComma.run (c :: s) = .ok ((), c :: s)
  run_item : ∀ acc rest, Reader.Ends rest →
    (item acc).run (print x ++ rest) = .ok (add acc x, rest)

namespace Reader

/-! ## Blanks -/

theorem ends_of_isSpace {c : Char} (hc : isSpace c = true) (rest : List Char) :
    Ends (c :: rest) := by
  refine ends_cons rest ?_
  simp only [isSpace, Bool.or_eq_true, decide_eq_true_eq] at hc
  rcases hc with ((rfl | rfl) | rfl) | rfl <;> decide

theorem dropWhile_isSpace {blank : List Char} (hblank : ∀ c ∈ blank, isSpace c = true) {c : Char}
    (hc : isSpace c = false) (rest : List Char) :
    (blank ++ c :: rest).dropWhile isSpace = c :: rest := by
  rw [List.dropWhile_append_of_pos hblank, List.dropWhile_cons_of_neg (by rw [hc]; decide)]

theorem run_next {blank : List Char} (hblank : ∀ c ∈ blank, isSpace c = true) {c : Char}
    (hc : isSpace c = false) (rest : List Char) :
    next.run (blank ++ c :: rest) = .ok (some c, c :: rest) := by
  simp only [next, run_bind, run_takeWhile, run_peek, dropWhile_isSpace hblank hc, List.head?_cons]

theorem run_next_cons {c : Char} (hc : isSpace c = false) (rest : List Char) :
    next.run (c :: rest) = .ok (some c, c :: rest) :=
  run_next (List.forall_mem_nil _) hc rest

theorem isSpace_of_mem_lineBreak (layout : Layout) (level : Nat) :
    ∀ c ∈ layout.lineBreak level, isSpace c = true := by
  intro c hc
  cases layout with
  | compact => cases hc
  | indented =>
    rcases List.mem_cons.1 hc with rfl | hc
    · decide
    · rw [List.eq_of_mem_replicate hc]
      decide

/-! ## Items between brackets -/

section Items

variable {σ α : Type}

variable {b : Brackets} {item : σ → Reader σ} {print : α → List Char} {add : σ → α → σ}
  (hclose : b.close = ']' ∨ b.close = '\x7d') {blank closing : List Char}
  (hblank : ∀ c ∈ blank, isSpace c = true) (hclosing : ∀ c ∈ closing, isSpace c = true)

include hclose in
theorem close_facts : isSpace b.close = false ∧ b.close ≠ ',' ∧
    b.close.isDigit = false ∧ b.close ≠ '.' ∧ b.close ≠ 'e' ∧ b.close ≠ 'E' := by
  rcases hclose with heq | heq <;> rw [heq] <;> decide

include hclose hclosing in
/-- What follows an item: more items, or the closing bracket. -/
theorem ends_items (print : α → List Char) (blank : List Char) (xs : List α) (rest : List Char) :
    Ends (xs.flatMap (fun x => ',' :: (blank ++ print x)) ++ (closing ++ b.close :: rest)) := by
  cases xs with
  | nil =>
    cases closing with
    | nil => exact ends_cons rest (close_facts hclose).2.2
    | cons c closing => exact ends_of_isSpace (hclosing c List.mem_cons_self) _
  | cons x xs => exact ends_cons _ (by decide)

include hclose hblank hclosing in
theorem rest_items {xs : List α} (h : ∀ x ∈ xs, b.Readable item print add x) (acc : σ)
    (rest : List Char) :
    b.Rest item acc (xs.flatMap (fun x => ',' :: (blank ++ print x)) ++ (closing ++ b.close :: rest))
      (xs.foldl add acc) rest := by
  obtain ⟨hspace, hcomma, -⟩ := close_facts hclose
  -- along the items that are left: what follows each of them ends it
  induction xs generalizing acc with
  | nil => exact .close (dropWhile_isSpace hclosing hspace rest)
  | cons x xs ih =>
    have hx := h x List.mem_cons_self
    obtain ⟨c, tail, hprint, hc, -, hchecks⟩ := hx.begins
    rw [List.flatMap_cons, List.append_assoc, List.cons_append, List.append_assoc, List.foldl_cons]
    have hmore := ih (fun y hy => h y (List.mem_cons_of_mem x hy)) (add acc x)
    refine .comma (List.dropWhile_cons_of_neg (by decide)) hcomma.symm ?_ hmore
    have hitem := hx.run_item acc _ (ends_items hclose hclosing print blank xs rest)
    rw [hprint, List.cons_append] at hitem ⊢
    rw [run_bind_of_ok (run_next hblank hc _), run_bind_of_ok (hchecks _).2, hitem]

include hclose hblank hclosing in
/-- **Items between brackets** are read back one after the other, the opening bracket being read. -/
theorem run_items {x : α} {xs : List α} (h : ∀ y ∈ x :: xs, b.Readable item print add y) (acc : σ)
    (rest : List Char) :
    (b.items item acc).run (blank ++ (print x ++
      (xs.flatMap (fun x => ',' :: (blank ++ print x)) ++ (closing ++ b.close :: rest)))) =
      .ok ((x :: xs).foldl add acc, rest) := by
  have hx := h x List.mem_cons_self
  obtain ⟨c, tail, hprint, hc, hne, hchecks⟩ := hx.begins
  have hitem := hx.run_item acc _ (ends_items hclose hclosing print blank xs rest)
  have hmore := rest_items hclose hblank hclosing (fun y hy => h y (List.mem_cons_of_mem x hy))
    (add acc x) rest
  rw [hprint, List.cons_append] at hitem ⊢
  refine run_items_eq_ok_iff.2 (.first (dropWhile_isSpace hblank hc _) hne ?_ hmore)
  rw [run_bind_of_ok (hchecks _).1, hitem]

include hclose in
theorem run_items_nil (acc : σ) (rest : List Char) :
    (b.items item acc).run (b.close :: rest) = .ok (acc, rest) := by
  have hspace : isSpace b.close = false := (close_facts hclose).1
  exact run_items_eq_ok_iff.2 (.empty (List.dropWhile_cons_of_neg (by rw [hspace]; decide)))

end Items

/-! ## Values -/

section Values

variable (layout : Layout) (level : Nat)

/-- A value that is no list and no object is read back, seen at its first character. -/
theorem run_scalar {v : Json} (hscalar : IsScalar v) (hv : Kept v) :
    ∃ c tail, chars layout level v = c :: tail ∧
      (isSpace c = false ∧ c ≠ '[' ∧ c ≠ '\x7b' ∧ c ≠ ']') ∧ ∀ rest, Ends rest →
        (scalar c).run (c :: (tail ++ rest)) = .ok (v, rest) := by
  cases hv with
  | null => exact ⟨'n', ['u', 'l', 'l'], by rw [chars], by decide, fun rest _ => rfl⟩
  | bool b =>
    cases b with
    | true => exact ⟨'t', ['r', 'u', 'e'], by rw [chars], by decide, fun rest _ => rfl⟩
    | false => exact ⟨'f', ['a', 'l', 's', 'e'], by rw [chars], by decide, fun rest _ => rfl⟩
  | num hn =>
    obtain ⟨c, tail, hchars, hc, hrun⟩ := hn
    refine ⟨c, tail, by rw [chars, hchars], ?_, hrun⟩
    rcases hc with rfl | hdigit
    · decide
    · refine ⟨?_, ne_of_isDigit hdigit (by decide), ne_of_isDigit hdigit (by decide),
        ne_of_isDigit hdigit (by decide)⟩
      cases hspace : isSpace c with
      | false => rfl
      | true => cases hdigit.symm.trans (ends_of_isSpace hspace [] c rfl).1
  | str s =>
    refine ⟨'"', escape s.toList ++ ['"'], by rw [chars]; rfl, by decide, fun rest _ => ?_⟩
    have hstring := run_string s rest
    have hscalar : scalar '"' = (do advance; return .str (← string)) := rfl
    rw [hscalar, run_bind_of_ok (run_advance _), List.drop_one, List.tail_cons, List.append_assoc,
      List.singleton_append, run_bind_of_ok hstring, run_pure]
  | arr hitems => exact hscalar.elim
  | obj hfields => exact hscalar.elim

theorem chars_begins {v : Json} (hv : Kept v) :
    ∃ c tail, chars layout level v = c :: tail ∧ isSpace c = false ∧ c ≠ ']' := by
  by_cases hscalar : IsScalar v
  · obtain ⟨c, tail, hchars, ⟨hspace, -, -, hclose⟩, -⟩ := run_scalar layout level hscalar hv
    exact ⟨c, tail, hchars, hspace, hclose⟩
  · cases v with
    | arr items =>
      cases items with
      | nil => exact ⟨'[', [']'], by rw [chars], by decide, by decide⟩
      | cons first rest => exact ⟨'[', _, by rw [chars]; rfl, by decide, by decide⟩
    | obj fields =>
      cases fields with
      | nil => exact ⟨'\x7b', ['\x7d'], by rw [chars], by decide, by decide⟩
      | cons first rest => exact ⟨'\x7b', _, by rw [chars]; rfl, by decide, by decide⟩
    | _ => exact absurd True.intro hscalar

theorem itemChars_eq (items : List Json) : itemChars layout level items =
    items.flatMap fun v => ',' :: (layout.lineBreak level ++ chars layout level v) := by
  induction items with
  | nil => rw [itemChars]; rfl
  | cons v items ih => rw [itemChars, ih, List.flatMap_cons, List.cons_append]

def fieldText (field : String × Json) : List Char :=
  stringChars field.1 ++ (layout.colon ++ chars layout level field.2)

theorem fieldChars_eq (fields : Fields) : fieldChars layout level fields =
    fields.flatMap fun field =>
      ',' :: (layout.lineBreak level ++ fieldText layout level field) := by
  induction fields with
  | nil => rw [fieldChars]; rfl
  | cons field fields ih =>
    obtain ⟨key, v⟩ := field
    rw [fieldChars, ih, List.flatMap_cons]
    simp only [fieldText, List.append_assoc, List.cons_append]

theorem chars_arr_cons (v : Json) (items : List Json) (rest : List Char) :
    chars layout level (.arr (v :: items)) ++ rest =
      '[' :: (layout.lineBreak (level + 1) ++ (chars layout (level + 1) v ++
        (items.flatMap (fun v => ',' :: (layout.lineBreak (level + 1) ++
          chars layout (level + 1) v)) ++ (layout.lineBreak level ++ ']' :: rest)))) := by
  rw [chars, itemChars_eq]
  simp only [List.append_assoc, List.cons_append, List.nil_append]

theorem chars_obj_cons (field : String × Json) (fields : Fields) (rest : List Char) :
    chars layout level (.obj (field :: fields)) ++ rest =
      '\x7b' :: (layout.lineBreak (level + 1) ++ (fieldText layout (level + 1) field ++
        (fields.flatMap (fun field => ',' :: (layout.lineBreak (level + 1) ++
          fieldText layout (level + 1) field)) ++
            (layout.lineBreak level ++ '\x7d' :: rest)))) := by
  obtain ⟨key, v⟩ := field
  rw [chars, fieldChars_eq]
  simp only [fieldText, List.append_assoc, List.cons_append, List.nil_append]

end Values

/-- Blanks in front of a value are skipped. -/
theorem run_value_blank {blank : List Char} (hblank : ∀ c ∈ blank, isSpace c = true)
    (levels : Nat) (s : List Char) :
    (value levels).run (blank ++ s) = (value levels).run s := by
  rw [← run_value_dropWhile, List.dropWhile_append_of_pos hblank, run_value_dropWhile]

section Containers

variable {layout : Layout} {level levels : Nat}

/-- The value is read back with this many levels. -/
def ReadsBack (layout : Layout) (level levels : Nat) (v : Json) : Prop :=
  ∀ rest, Ends rest → (value levels).run (chars layout level v ++ rest) = .ok (v, rest)

theorem run_value_of_scalar {c : Char} {s r : List Char} {v : Json} (hspace : isSpace c = false)
    (hlist : c ≠ '[') (hobject : c ≠ '\x7b') (h : (scalar c).run (c :: s) = .ok (v, r)) :
    (value levels).run (c :: s) = .ok (v, r) := by
  rw [run_value_eq_ok_iff, List.dropWhile_cons_of_neg (by rw [hspace]; decide)]
  exact .scalar hlist hobject h

theorem readable_item {v : Json} (hv : Kept v) (h : ReadsBack layout level levels v) :
    listBrackets.Readable (listItem (value levels)) (chars layout level) Array.push v where
  begins := by
    obtain ⟨c, tail, hchars, hspace, hclose⟩ := chars_begins layout level hv
    refine ⟨c, tail, hchars, hspace, hclose, fun s => ⟨rfl, ?_⟩⟩
    simp only [listBrackets, run_bind, run_peek, List.head?_cons, hclose, ↓reduceIte, run_pure]
  run_item acc rest hrest := by
    rw [listItem, run_bind_of_ok (h rest hrest), run_pure]

/-- A key is read back up to its colon; what stands behind the colon is left. -/
theorem run_key (name : String) (blank s : List Char) :
    key.run (stringChars name ++ (':' :: blank ++ s)) = .ok (name, blank ++ s) := by
  have hquote : stringChars name ++ (':' :: blank ++ s) =
      '"' :: (escape name.toList ++ '"' :: ':' :: (blank ++ s)) := by
    simp only [stringChars, List.append_assoc, List.cons_append, List.nil_append]
  have hcolon : colon.run (':' :: (blank ++ s)) = .ok ((), blank ++ s) := by
    rw [colon, run_bind_of_ok (run_next_cons (by decide) _)]
    rfl
  rw [hquote, key, run_bind_of_ok (run_advance _), List.drop_one, List.tail_cons,
    run_bind_of_ok (run_string name _), run_bind_of_ok hcolon, run_pure]

theorem colon_eq (layout : Layout) :
    ∃ blank, (∀ c ∈ blank, isSpace c = true) ∧ layout.colon = ':' :: blank := by
  cases layout with
  | compact => exact ⟨[], List.forall_mem_nil _, rfl⟩
  | indented => exact ⟨[' '], List.forall_mem_singleton.2 (by decide), rfl⟩

theorem readable_field {field : String × Json} (h : ReadsBack layout level levels field.2) :
    objectBrackets.Readable (objectItem (value levels)) (fieldText layout level)
      (fun fields field => Entries.insert field.1 field.2 fields)
      field where
  begins := by
    refine ⟨'"', _, rfl, by decide, by decide, fun s => ⟨rfl, rfl⟩⟩
  run_item acc rest hrest := by
    obtain ⟨blank, hblank, hcolon⟩ := colon_eq layout
    rw [fieldText, hcolon, List.append_assoc, List.append_assoc, objectItem,
      run_bind_of_ok (run_key _ _ _),
      run_bind_of_ok ((run_value_blank hblank levels _).trans (h rest hrest)), run_pure]

theorem readsBack_of_scalar {v : Json} (hscalar : IsScalar v) (hv : Kept v) :
    ReadsBack layout level levels v := by
  intro rest hrest
  obtain ⟨c, tail, hchars, ⟨hspace, hlist, hobject, -⟩, hrun⟩ :=
    run_scalar layout level hscalar hv
  rw [hchars]
  exact run_value_of_scalar hspace hlist hobject (hrun rest hrest)

theorem run_list {s r : List Char} {items : Array Json}
    (h : (listBrackets.items (listItem (value levels)) #[]).run s = .ok (items, r)) :
    (value (levels + 1)).run ('[' :: s) = .ok (.arr items.toList, r) :=
  run_value_eq_ok_iff.2 (.list (run_items_eq_ok_iff.1 h))

theorem run_object {s r : List Char} {fields : Fields}
    (h : (objectBrackets.items (objectItem (value levels)) []).run s = .ok (fields, r)) :
    (value (levels + 1)).run ('\x7b' :: s) = .ok (.obj fields, r) :=
  run_value_eq_ok_iff.2 (.object (run_items_eq_ok_iff.1 h))

theorem readsBack_arr {items : List Json} (hv : ∀ v ∈ items, Kept v)
    (h : ∀ v ∈ items, ReadsBack layout (level + 1) levels v) :
    ReadsBack layout level (levels + 1) (.arr items) := by
  intro rest hrest
  cases items with
  | nil =>
    rw [chars]
    exact run_list (run_items_nil (.inl rfl) #[] rest)
  | cons v items =>
    rw [chars_arr_cons]
    have hitems := run_items (.inl rfl) (isSpace_of_mem_lineBreak layout (level + 1))
      (isSpace_of_mem_lineBreak layout level)
      (fun w hw => readable_item (hv w hw) (h w hw)) #[] rest
    have hfold : ((v :: items).foldl Array.push #[]).toList = v :: items := by
      rw [List.foldl_push_eq_append', Array.empty_append]
    have hlist := run_list hitems
    rwa [hfold] at hlist

theorem readsBack_obj {fields : Fields} (hdistinct : fields.Distinct)
    (h : ∀ field ∈ fields, ReadsBack layout (level + 1) levels field.2) :
    ReadsBack layout level (levels + 1) (.obj fields) := by
  intro rest hrest
  cases fields with
  | nil =>
    rw [chars]
    exact run_object (run_items_nil (.inr rfl) [] rest)
  | cons field fields =>
    rw [chars_obj_cons]
    have hfields := run_items (.inr rfl) (isSpace_of_mem_lineBreak layout (level + 1))
      (isSpace_of_mem_lineBreak layout level)
      (fun entry hentry => readable_field (h entry hentry)) [] rest
    rw [Entries.foldl_insert hdistinct] at hfields
    exact run_object hfields

/-- **A value is read back** with as many levels as it nests deep, where the text after it does not
go on with a number. -/
theorem readsBack_of_nested {v : Json} (hn : Nested levels v) (hv : Kept v) :
    ReadsBack layout level levels v := by
  induction hn generalizing level with
  | null => exact readsBack_of_scalar True.intro hv
  | bool b => exact readsBack_of_scalar True.intro hv
  | num n => exact readsBack_of_scalar True.intro hv
  | str s => exact readsBack_of_scalar True.intro hv
  | arr _ ih =>
    have hitems := kept_arr_iff.1 hv
    exact readsBack_arr hitems fun v hmem => ih v hmem (hitems v hmem)
  | obj hdistinct _ ih =>
    have hfields := kept_obj_iff.1 hv
    exact readsBack_obj hdistinct fun field hmem => ih field hmem (hfields field hmem)

end Containers

end Reader

/-- **What is written is read back**, in either layout. -/
theorem read_of_kept (layout : Layout) {v : Json} (hn : Nested maxDepth v) (hv : Kept v) :
    read (String.ofList (chars layout 0 v)) = .ok v := by
  have hends : Reader.Ends [] := fun c hc => by cases hc
  refine Reader.runWhole_eq_ok_iff.2 ⟨[], ?_, rfl⟩
  have hvalue : Reader.ReadsBack layout 0 maxDepth v := Reader.readsBack_of_nested hn hv
  rw [String.toList_ofList, ← hvalue [] hends, List.append_nil]

theorem read_ofList_chars (layout : Layout) {v : Json} (hn : Nested maxDepth v) (hv : Integral v) :
    read (String.ofList (chars layout 0 v)) = .ok v := read_of_kept layout hn hv.kept

end ToolScaffold.Json
