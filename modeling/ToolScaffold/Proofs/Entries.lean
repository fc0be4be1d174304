import ToolScaffold.Entries

/-!
# Entries with different keys

Entries with different keys come back as they are when they are written one after the other
(`foldl_insert`), and `firsts` keeps all of them (`firsts_of_distinct`). Of others it keeps what
lookups and writing see (`get?_firsts`, `firsts_insert`). A written value is what is found under its
key (`get?_insert_self`), and nothing else changes (`get?_insert_of_ne`, `insert_of_mem`).
-/

namespace ToolScaffold.Entries

variable {α : Type} {key : String} {value : α} {entries : Entries α}

theorem mem_of_get?_eq_some (h : get? entries key = some value) : (key, value) ∈ entries := by
  obtain ⟨entry, hfind, rfl⟩ := Option.map_eq_some_iff.1 h
  have hkey := List.find?_some hfind
  rw [decide_eq_true_eq] at hkey
  subst hkey
  exact List.mem_of_find?_eq_some hfind

theorem get?_cons (entry : String × α) (rest : Entries α) (key : String) :
    get? (entry :: rest) key = if entry.1 = key then some entry.2 else get? rest key := by
  unfold get?
  rw [List.find?_cons]
  by_cases h : entry.1 = key
  · simp [h]
  · simp [h]

theorem mem_keys_of_get?_eq_some (h : get? entries key = some value) : key ∈ keys entries :=
  List.mem_map.2 ⟨_, mem_of_get?_eq_some h, rfl⟩

theorem exists_get?_of_mem_keys (h : key ∈ keys entries) :
    ∃ value, get? entries key = some value := by
  induction entries with
  | nil => cases h
  | cons entry rest ih =>
    rw [get?_cons]
    by_cases heq : entry.1 = key
    · exact ⟨entry.2, if_pos heq⟩
    · rw [if_neg heq]
      rw [keys, List.map_cons, List.mem_cons] at h
      exact ih (h.resolve_left (Ne.symm heq))

theorem Distinct.get?_of_mem (h : entries.Distinct) (hmem : (key, value) ∈ entries) :
    get? entries key = some value := by
  induction entries with
  | nil => cases hmem
  | cons entry rest ih =>
    rw [Distinct, keys, List.map_cons, List.nodup_cons] at h
    rw [get?_cons]
    rcases List.mem_cons.1 hmem with rfl | hrest
    · exact if_pos rfl
    · have hne : entry.1 ≠ key := by
        rintro rfl
        exact h.1 (List.mem_map.2 ⟨_, hrest, rfl⟩)
      rw [if_neg hne, ih h.2 hrest]

/-- A key that stands once parts the entries in two. -/
theorem Distinct.exists_split (h : entries.Distinct) (hmem : (key, value) ∈ entries) :
    ∃ front back, entries = front ++ (key, value) :: back ∧
      key ∉ keys front ∧ key ∉ keys back := by
  obtain ⟨front, back, rfl⟩ := List.append_of_mem hmem
  rw [Distinct, keys, List.map_append, List.map_cons, List.perm_middle.nodup_iff, List.nodup_cons,
    List.mem_append, not_or] at h
  exact ⟨front, back, rfl, h.1⟩

/-! ## Taking out -/

theorem mem_of_mem_erase {entry : String × α} (h : entry ∈ erase entries key) : entry ∈ entries :=
  (List.mem_filter.1 h).1

theorem erase_of_not_mem (h : key ∉ keys entries) : erase entries key = entries := by
  refine List.filter_eq_self.2 fun entry hentry => decide_eq_true ?_
  rintro rfl
  exact h (List.mem_map_of_mem hentry)

theorem get?_erase_of_ne {other : String} (h : other ≠ key) :
    get? (erase entries key) other = get? entries other := by
  unfold get? erase
  rw [List.find?_filter]
  congr 2
  funext entry
  by_cases heq : entry.1 = other
  · simp [heq, h]
  · simp [heq]

theorem firsts_of_distinct (h : entries.Distinct) : firsts entries = entries := by
  induction entries with
  | nil => rfl
  | cons entry rest ih =>
    rw [Distinct, keys, List.map_cons, List.nodup_cons] at h
    rw [firsts, ih h.2, erase_of_not_mem h.1]

/-! ## Writing -/

/-- A key that is not there is written behind the others. -/
theorem insert_of_not_mem (h : key ∉ keys entries) :
    insert key value entries = entries ++ [(key, value)] := by
  induction entries with
  | nil => rfl
  | cons entry rest ih =>
    rw [keys, List.map_cons, List.mem_cons, not_or] at h
    rw [insert, if_neg (Ne.symm h.1), ih h.2, List.cons_append]

/-- A key that is there is written in its place. -/
theorem insert_of_mem (value : α) (h : key ∈ keys entries) :
    ∃ front old back, entries = front ++ (key, old) :: back ∧ key ∉ keys front ∧
      insert key value entries = front ++ (key, value) :: back := by
  induction entries with
  | nil => exact absurd h List.not_mem_nil
  | cons entry rest ih =>
    by_cases heq : entry.1 = key
    · exact ⟨[], entry.2, rest, by rw [← heq]; rfl, List.not_mem_nil, if_pos heq⟩
    · rw [keys, List.map_cons, List.mem_cons] at h
      have hrest : key ∈ keys rest := h.resolve_left (Ne.symm heq)
      obtain ⟨front, old, back, hsplit, hfront, hinsert⟩ := ih hrest
      refine ⟨entry :: front, old, back, by rw [hsplit, List.cons_append], ?_, ?_⟩
      · rw [keys, List.map_cons, List.mem_cons, not_or]
        exact ⟨Ne.symm heq, hfront⟩
      · rw [insert, if_neg heq, hinsert, List.cons_append]

theorem insert_ne_nil : insert key value entries ≠ [] := by
  cases entries with
  | nil => exact List.cons_ne_nil _ _
  | cons entry rest =>
    rw [insert]
    split
    · exact List.cons_ne_nil _ _
    · exact List.cons_ne_nil _ _

/-- A written value is found under its key. -/
theorem get?_insert_self : get? (insert key value entries) key = some value := by
  induction entries with
  | nil => rw [insert, get?_cons, if_pos rfl]
  | cons entry rest ih =>
    rw [insert]
    split
    · rw [get?_cons, if_pos rfl]
    · next hne => rw [get?_cons, if_neg hne, ih]

/-- What stands under other keys is left as it was. -/
theorem get?_insert_of_ne {other : String} (h : other ≠ key) :
    get? (insert key value entries) other = get? entries other := by
  induction entries with
  | nil => rw [insert, get?_cons, if_neg (Ne.symm h)]
  | cons entry rest ih =>
    rw [insert]
    split
    · next heq =>
      rw [get?_cons, get?_cons, if_neg (Ne.symm h), if_neg (heq ▸ Ne.symm h)]
    · rw [get?_cons, get?_cons, ih]

/-- Writing commutes with a change of all values. -/
theorem insert_map {β : Type} (f : α → β) :
    insert key (f value) (entries.map fun entry => (entry.1, f entry.2)) =
      (insert key value entries).map fun entry => (entry.1, f entry.2) := by
  induction entries with
  | nil => rfl
  | cons entry rest ih =>
    rw [insert, List.map_cons, insert]
    split
    · rfl
    · rw [ih, List.map_cons]

theorem forall_insert {P : α → Prop} (hvalue : P value) (h : ∀ entry ∈ entries, P entry.2) :
    ∀ entry ∈ insert key value entries, P entry.2 := by
  intro entry hentry
  rcases mem_insert hentry with rfl | hmem
  · exact hvalue
  · exact h entry hmem

theorem erase_cons (entry : String × α) (rest : Entries α) (key : String) :
    erase (entry :: rest) key =
      if entry.1 = key then erase rest key else entry :: erase rest key := by
  by_cases h : entry.1 = key <;> simp [erase, h]

theorem erase_insert_of_ne {other : String} (h : key ≠ other) :
    erase (insert key value entries) other = insert key value (erase entries other) := by
  induction entries with
  | nil => rw [insert, erase_cons, if_neg h]; rfl
  | cons entry rest ih =>
    by_cases heq : entry.1 = key
    · rw [insert, if_pos heq, erase_cons, erase_cons, if_neg h, if_neg (heq ▸ h), insert,
        if_pos heq]
    · rw [insert, if_neg heq, erase_cons, erase_cons, ih]
      split
      · rfl
      · rw [insert, if_neg heq]

/-- Writing commutes with keeping each key where it stands first. -/
theorem firsts_insert : firsts (insert key value entries) = insert key value (firsts entries) := by
  induction entries with
  | nil => rfl
  | cons entry rest ih =>
    by_cases heq : entry.1 = key
    · rw [insert, if_pos heq, firsts, firsts, insert, if_pos heq, heq]
    · rw [insert, if_neg heq, firsts, firsts, insert, if_neg heq, ih,
        erase_insert_of_ne (Ne.symm heq)]

/-- What is kept is what a lookup finds. -/
theorem get?_firsts (entries : Entries α) (key : String) :
    get? (firsts entries) key = get? entries key := by
  induction entries with
  | nil => rfl
  | cons entry rest ih =>
    rw [firsts, get?_cons, get?_cons]
    split
    · rfl
    · next hne => rw [get?_erase_of_ne (Ne.symm hne), ih]

/-- A key that is found parts what is kept in two, and is written between the parts. -/
theorem exists_split_firsts (h : get? entries key = some value) (new : α) :
    ∃ front back, firsts entries = front ++ (key, value) :: back ∧ key ∉ keys front ∧
      firsts (insert key new entries) = front ++ (key, new) :: back := by
  rw [← get?_firsts] at h
  obtain ⟨front, old, back, hsplit, hfront, hinsert⟩ :=
    insert_of_mem new (mem_keys_of_get?_eq_some h)
  have hold : get? (front ++ (key, old) :: back) key = some old :=
    (hsplit ▸ distinct_firsts entries).get?_of_mem (by simp)
  rw [hsplit, hold, Option.some.injEq] at h
  subst h
  exact ⟨front, back, hsplit, hfront, firsts_insert.trans hinsert⟩

theorem foldl_insert_append {written : Entries α} (h : Distinct (written ++ entries)) :
    entries.foldl (fun written entry => insert entry.1 entry.2 written) written =
      written ++ entries := by
  induction entries generalizing written with
  | nil => rw [List.foldl_nil, List.append_nil]
  | cons entry rest ih =>
    have hsplit : written ++ entry :: rest = (written ++ [entry]) ++ rest := by
      rw [List.append_assoc, List.singleton_append]
    have hfresh : entry.1 ∉ keys written := by
      rw [Distinct, keys, List.map_append, List.nodup_append] at h
      exact fun hmem => h.2.2 entry.1 hmem entry.1 List.mem_cons_self rfl
    rw [List.foldl_cons, insert_of_not_mem hfresh, ih (hsplit ▸ h), hsplit]

theorem foldl_insert (h : entries.Distinct) :
    entries.foldl (fun written entry => insert entry.1 entry.2 written) [] = entries :=
  foldl_insert_append h

end ToolScaffold.Entries
