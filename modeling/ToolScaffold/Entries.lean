/-!
# Ordered entries

Key and value pairs in the order in which their keys first appeared. Writing to a key that is there
keeps its place, writing to a new key appends. `ofList` builds the entries of a list of pairs, so a
repeated key keeps its first place and its last value. What was written, or what `firsts` keeps, has
different keys (`Distinct.insert`, `distinct_firsts`).
-/

namespace ToolScaffold

/-- Key and value pairs in order. -/
abbrev Entries (α : Type) := List (String × α)

namespace Entries

variable {α : Type}

def keys (entries : Entries α) : List String := entries.map Prod.fst

/-- The value under the first occurrence of the key. -/
def get? (entries : Entries α) (key : String) : Option α :=
  (entries.find? fun entry => entry.1 = key).map Prod.snd

/-- Writes the value under the key, in place if the key is there. -/
def insert (key : String) (value : α) : Entries α → Entries α
  | [] => [(key, value)]
  | entry :: rest =>
    if entry.1 = key then (key, value) :: rest else entry :: insert key value rest

def erase (entries : Entries α) (key : String) : Entries α :=
  entries.filter fun entry => entry.1 ≠ key

/-- Writes the pairs one after the other. -/
def ofList (pairs : List (String × α)) : Entries α :=
  pairs.foldl (fun entries pair => insert pair.1 pair.2 entries) []

/-- Each key where it stands first, with the value there. -/
def firsts : Entries α → Entries α
  | [] => []
  | entry :: rest => entry :: erase (firsts rest) entry.1

/-! ## Different keys -/

/-- Each key stands once. -/
def Distinct (entries : Entries α) : Prop := (keys entries).Nodup

variable {key : String} {value : α} {entries : Entries α}

instance : Decidable entries.Distinct := inferInstanceAs (Decidable (keys entries).Nodup)

theorem not_mem_keys_erase : key ∉ keys (erase entries key) := by
  intro h
  obtain ⟨entry, hentry, heq⟩ := List.mem_map.1 h
  exact of_decide_eq_true (List.mem_filter.1 hentry).2 heq

theorem Distinct.erase (h : entries.Distinct) (key : String) : (erase entries key).Distinct :=
  h.sublist (List.filter_sublist.map Prod.fst)

theorem distinct_firsts (entries : Entries α) : (firsts entries).Distinct := by
  induction entries with
  | nil => exact List.nodup_nil
  | cons entry rest ih => exact List.nodup_cons.2 ⟨not_mem_keys_erase, ih.erase entry.1⟩

theorem mem_insert {entry : String × α} (h : entry ∈ insert key value entries) :
    entry = (key, value) ∨ entry ∈ entries := by
  induction entries with
  | nil => exact .inl (List.mem_singleton.1 h)
  | cons first rest ih =>
    rw [insert] at h
    split at h
    · rcases List.mem_cons.1 h with heq | hrest
      · exact .inl heq
      · exact .inr (List.mem_cons_of_mem first hrest)
    · rcases List.mem_cons.1 h with rfl | hrest
      · exact .inr List.mem_cons_self
      · exact (ih hrest).imp_right (List.mem_cons_of_mem first)

/-- **Writing keeps the keys different.** -/
theorem Distinct.insert (h : entries.Distinct) : (insert key value entries).Distinct := by
  unfold Distinct at h ⊢
  induction entries with
  | nil => exact List.nodup_cons.2 ⟨List.not_mem_nil, List.nodup_nil⟩
  | cons first rest ih =>
    rw [keys, List.map_cons, List.nodup_cons] at h
    rw [Entries.insert]
    split
    · next heq =>
      rw [keys, List.map_cons, List.nodup_cons]
      exact ⟨heq ▸ h.1, h.2⟩
    · next hne =>
      rw [keys, List.map_cons, List.nodup_cons]
      refine ⟨fun hmem => ?_, ih h.2⟩
      obtain ⟨entry, hentry, heq⟩ := List.mem_map.1 hmem
      rcases mem_insert hentry with rfl | hrest
      · exact hne heq.symm
      · exact h.1 (heq ▸ List.mem_map_of_mem hrest)

end Entries

end ToolScaffold
