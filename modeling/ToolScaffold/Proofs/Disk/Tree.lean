import ToolScaffold.Disk.Tree
import ToolScaffold.Proofs.Except
import ToolScaffold.Proofs.Path

/-!
# What writing does to a tree

`Delivered limits way files t t'` says that the tree `t'` is `t` with some files written and nothing
else done to it, but that directories may have been made on a way. A file is written at all its
places, so what is said of it holds up to `Linked`, which joins the places of one file: what stands
at a place is not changed unless the place is linked to one that was written to, and a file holds
what was written to it unless something else was written to a linked place after that.

Making a directory and writing a file are the two steps of a delivery (`delivered_makeDirectory`,
`delivered_fill`), and one delivery after another is a delivery (`Delivered.append`). Both steps
keep all directories and all links (`Grows`), so a path that led somewhere still leads there
(`Grows.find`).
-/

namespace ToolScaffold

theorem Limits.allow_eq_ok {limits : Limits} {demand : Demand} {place : Place} {u : Unit} :
    limits.allow demand place = .ok u ↔ limits.refusal demand place = .none := by
  unfold allow
  cases limits.refusal demand place <;> simp

namespace Tree

variable {t t' s u : Tree} {limits : Limits} {p : Path} {place other a b : Place}

/-! ## Places -/

theorem ne_nil_of_node?_eq_none (h : t.node? place = none) : place ≠ [] := by
  rintro rfl
  cases h

theorem node?_put_self (h : place ≠ []) (t : Tree) (node : Node) :
    (t.put place node).node? place = some node := by
  simp [put, node?, h]

theorem node?_put_of_ne (h : other ≠ place) (t : Tree) (node : Node) :
    (t.put place node).node? other = t.node? other := by
  -- What is taken away for the new node is not at the place that is looked for.
  have htest : (fun e : Place × Node => !decide (e.1 = place) && decide (e.1 = other)) =
      fun e => decide (e.1 = other) := by
    funext e
    by_cases he : e.1 = other
    · simp [he, h]
    · simp [he]
  simp [put, node?, Ne.symm h, htest]

theorem node?_rewrite (t : Tree) (number : Nat) (content : Content) (place : Place) :
    (t.rewrite number content).node? place = (t.node? place).map (·.rewritten number content) := by
  unfold node? rewrite
  split
  · rfl
  · rw [List.find?_map, Option.map_map, Option.map_map]
    rfl

theorem entry?_congr (h : t'.node? place = t.node? place) : t'.entry? place = t.entry? place :=
  congrArg (Option.map Node.entry) h

theorem number?_congr (h : t'.node? place = t.node? place) : t'.number? place = t.number? place :=
  congrArg (·.bind Node.number?) h

theorem entry?_eq_none_iff : t.entry? place = none ↔ t.node? place = none := Option.map_eq_none_iff

theorem entry?_eq_directory_iff :
    t.entry? place = some .directory ↔ t.node? place = some .directory := by
  unfold entry?
  cases t.node? place with
  | none => simp
  | some node => cases node <;> simp [Node.entry]

theorem number?_rewritten (number : Nat) (content : Content) (node : Node) :
    (node.rewritten number content).number? = node.number? := by
  cases node with
  | directory => rfl
  | file k old =>
    rw [Node.rewritten]
    split <;> rfl

theorem number?_rewrite (t : Tree) (number : Nat) (content : Content) (place : Place) :
    (t.rewrite number content).number? place = t.number? place := by
  rw [number?, number?, node?_rewrite, Option.bind_map]
  exact congrArg _ (funext (number?_rewritten number content))

theorem entry?_rewrite_of_ne {number : Nat} (h : t.number? place ≠ some number)
    (content : Content) :
    entry? (t.rewrite number content) place = t.entry? place := by
  unfold entry?
  rw [node?_rewrite]
  rw [number?] at h
  cases hnode : t.node? place with
  | none => rfl
  | some node =>
    rw [hnode] at h
    cases node with
    | directory => rfl
    | file k old =>
      have hk : k ≠ number := by simpa [Node.number?] using h
      simp [Node.rewritten, hk]

theorem entry?_rewrite_of_number {number : Nat} (h : t.number? place = some number)
    (content : Content) :
    entry? (t.rewrite number content) place = some (.file content) := by
  unfold entry?
  rw [node?_rewrite]
  rw [number?] at h
  cases hnode : t.node? place with
  | none =>
    rw [hnode] at h
    cases h
  | some node =>
    rw [hnode] at h
    cases node with
    | directory => cases h
    | file k old =>
      have hk : k = number := by simpa [Node.number?] using h
      simp [Node.rewritten, hk, Node.entry]

theorem number?_eq_of_node? {number : Nat} {content : Content}
    (h : t.node? place = some (.file number content)) : t.number? place = some number := by
  rw [number?, h]
  rfl

theorem exists_file_of_number? {number : Nat} (h : t.number? place = some number) :
    ∃ content, t.entry? place = some (.file content) := by
  obtain ⟨node, hnode, hnumber⟩ := Option.bind_eq_some_iff.mp h
  cases node with
  | directory => cases hnumber
  | file k content => exact ⟨content, congrArg (Option.map Node.entry) hnode⟩

theorem number?_lt_fresh {number : Nat} (h : t.number? place = some number) :
    number < t.fresh := by
  have hmem : ∀ nodes : List (Place × Node), (∃ e ∈ nodes, e.2.number? = some number) →
      number < nodes.foldr (fun e n => max n ((e.2.number?.map (· + 1)).getD 0)) 0 := by
    intro nodes
    induction nodes with
    | nil => simp
    | cons e rest ih =>
      rw [List.foldr_cons]
      rintro ⟨found, hfound, hnumber⟩
      obtain rfl | hrest := List.mem_cons.mp hfound
      · rw [hnumber]
        exact Nat.lt_of_lt_of_le (Nat.lt_succ_self number) (Nat.le_max_right _ _)
      · exact Nat.lt_of_lt_of_le (ih ⟨found, hrest, hnumber⟩) (Nat.le_max_left _ _)
  refine hmem t.nodes ?_
  obtain ⟨node, hnode, hnumber⟩ := Option.bind_eq_some_iff.mp h
  rw [node?] at hnode
  split at hnode
  · cases hnode
    cases hnumber
  · obtain ⟨e, he, rfl⟩ := Option.map_eq_some_iff.mp hnode
    exact ⟨e, List.mem_of_find?_eq_some he, hnumber⟩

/-! ## Links -/

/-- The places are one, or one file stands at both. -/
def Linked (t : Tree) (a b : Place) : Prop :=
  a = b ∨ ∃ number, t.number? a = some number ∧ t.number? b = some number

theorem Linked.refl (t : Tree) (place : Place) : t.Linked place place := .inl rfl

/-- What is written to the path is written at the place: the path leads to it, or to another place
of the same file. -/
def Reaches (limits : Limits) (t : Tree) (p : Path) (place : Place) : Prop :=
  ∃ target, t.find p limits = .ok target ∧ t.Linked target place

/-! ## Ways -/

theorem step_empty (limits : Limits) (place : Place) : step limits place "" = .ok place := rfl

theorem step_eq_ok_iff {name : String} (hname : name ≠ "") :
    step limits place name = .ok other ↔ limits.refusal .pass place = none ∧
      name.utf8ByteSize ≤ maxName ∧ follow place name = other := by
  rw [step, if_neg hname, bind_eq_ok]
  simp only [Limits.allow_eq_ok, exists_const]
  refine and_congr_right fun _ => ?_
  split
  · next hlong => exact iff_of_false nofun fun h => absurd h.1 (Nat.not_le.mpr hlong)
  · next hshort => rw [Except.ok.injEq, and_iff_right (Nat.not_lt.mp hshort)]

theorem walk_cons_iff {name : String} {rest : List String} :
    t.walk limits place (name :: rest) = .ok other ↔ t.entry? place = some .directory ∧
      ∃ next, step limits place name = .ok next ∧ t.walk limits next rest = .ok other := by
  rw [walk]
  cases t.entry? place with
  | none => simp
  | some entry =>
    cases entry with
    | file content => simp
    | directory => simp [bind_eq_ok]

theorem walk_append_iff {xs ys : List String} :
    t.walk limits place (xs ++ ys) = .ok other ↔
      ∃ between, t.walk limits place xs = .ok between ∧ t.walk limits between ys = .ok other := by
  induction xs generalizing place with
  | nil => simp [walk]
  | cons name rest ih =>
    simp only [List.cons_append, walk_cons_iff, ih]
    grind

theorem follow_of_isName {name : String} (hname : Path.IsName name) (place : Place) :
    follow place name = place ++ [name] := by
  rw [follow, if_neg (not_or.mpr ⟨hname.ne_empty, hname.ne_dot⟩), if_neg hname.ne_dots]

theorem find_eq_ok_iff :
    t.find p limits = .ok place ↔ '\x00' ∉ p.text.toList ∧ p.text ≠ "" ∧
      p.text.utf8ByteSize < maxPath ∧ t.walk limits (t.start p) p.steps = .ok place := by
  rw [find]
  split
  · simp_all
  · split
    · simp_all
    · split
      · next hlong => simp [Nat.not_lt.mpr hlong]
      · simp_all

/-- The directory that a path stands for when a name is joined to it: the empty path stands for the
working directory. -/
def directory (t : Tree) (output : Path) (limits : Limits) : Except DiskFault Place :=
  if output.text = "" then .ok t.here else t.find output limits

/-- **A name in a directory** leads to the place of that name in it. -/
theorem find_join {output : Path} {name : String} (hname : Path.IsName name)
    (h : t.find (output.join name) limits = .ok place) :
    ∃ above, t.directory output limits = .ok above ∧ place = above ++ [name] := by
  obtain ⟨front, hsteps, houtput⟩ := Path.steps_join output hname.notMem_slash
  obtain ⟨hnul, -, hsize, hwalk⟩ := find_eq_ok_iff.mp h
  rw [hsteps, walk_append_iff, start, Path.isAbsolute_join output hname.notMem_slash] at hwalk
  obtain ⟨between, hfront, hlast⟩ := hwalk
  obtain ⟨hbetween, next, hstep, hnext⟩ := walk_cons_iff.mp hlast
  cases hnext
  obtain ⟨-, -, hplace⟩ := (step_eq_ok_iff hname.ne_empty).mp hstep
  refine ⟨between, ?_, hplace.symm.trans (follow_of_isName hname between)⟩
  unfold directory
  split
  · next hempty =>
    have hstart : output.isAbsolute = false := by simp [Path.isAbsolute, hempty]
    have hone : output.steps = [""] := by rw [Path.steps, hempty]; rfl
    rw [hstart, if_neg Bool.false_ne_true] at hfront
    -- whether the empty step stands in front of the name or not, it leads nowhere
    rcases houtput with houtput | houtput
    · rw [← houtput, hone, walk_cons_iff] at hfront
      obtain ⟨-, here, hstay, hhere⟩ := hfront
      cases hstay
      exact hhere
    · have hnil : front = [] := (List.append_inj_left' (hone.symm.trans houtput) rfl).symm
      rwa [hnil] at hfront
  · next hne =>
    refine find_eq_ok_iff.mpr ⟨fun hmem => hnul ?_, hne, ?_, ?_⟩
    · exact Path.subset_text_join output hname.notMem_slash hmem
    · exact Nat.lt_of_le_of_lt (Path.utf8ByteSize_le_join output hname.notMem_slash) hsize
    · rcases houtput with houtput | houtput
      · rwa [houtput]
      · rw [houtput, walk_append_iff]
        exact ⟨between, hfront, walk_cons_iff.mpr ⟨hbetween, between, step_empty _ _, rfl⟩⟩

theorem lookup_eq_ok_iff {entry : Entry} : t.lookup p limits = .ok entry ↔
    ∃ place, t.find p limits = .ok place ∧ t.entry? place = some entry ∧
      limits.refusal .ask place = none := by
  rw [lookup, bind_eq_ok]
  refine exists_congr fun place => and_congr_right fun _ => ?_
  cases t.entry? place with
  | none => exact iff_of_false nofun nofun
  | some found =>
    simp only [bind_eq_ok, Limits.allow_eq_ok, exists_const, Option.some.injEq]
    rw [and_comm]
    exact and_congr_left fun _ => iff_of_eq (Except.ok.injEq _ _)

theorem isOk_lookup_iff :
    (t.lookup p limits).isOk = true ↔ ∃ entry, t.lookup p limits = .ok entry := by
  cases t.lookup p limits <;> simp [Except.isOk, Except.toBool]

/-! ## Keeping directories and links -/

/-- Every directory of `t` is one of `t'`, and every file of `t` is a file of `t'` at the same
places and at no others. -/
structure Grows (t t' : Tree) : Prop where
  here_eq : t'.here = t.here
  directory : ∀ {place}, t.entry? place = some .directory → t'.entry? place = some .directory
  number : ∀ {place number}, t.number? place = some number → t'.number? place = some number
  linked : ∀ {a b}, t'.Linked a b → t.Linked a b

namespace Grows

theorem refl (t : Tree) : Grows t t := ⟨rfl, id, id, id⟩

theorem trans (h : Grows t s) (h' : Grows s u) : Grows t u where
  here_eq := h'.here_eq.trans h.here_eq
  directory := h'.directory ∘ h.directory
  number := h'.number ∘ h.number
  linked := h.linked ∘ h'.linked

theorem linked_iff (h : Grows t t') : t'.Linked a b ↔ t.Linked a b := by
  refine ⟨h.linked, ?_⟩
  rintro (hab | ⟨number, ha, hb⟩)
  · exact .inl hab
  · exact .inr ⟨number, h.number ha, h.number hb⟩

theorem walk (h : Grows t t') {names : List String}
    (hwalk : t.walk limits place names = .ok other) : t'.walk limits place names = .ok other := by
  induction names generalizing place with
  | nil => exact hwalk
  | cons name rest ih =>
    rw [walk_cons_iff] at hwalk ⊢
    obtain ⟨hplace, next, hstep, hnext⟩ := hwalk
    exact ⟨h.directory hplace, next, hstep, ih hnext⟩

/-- What a path leads to stays where it is. -/
theorem find (h : Grows t t') (hfind : t.find p limits = .ok place) :
    t'.find p limits = .ok place := by
  rw [find_eq_ok_iff] at hfind ⊢
  obtain ⟨hnul, hempty, hsize, hwalk⟩ := hfind
  refine ⟨hnul, hempty, hsize, ?_⟩
  rw [start, h.here_eq]
  exact h.walk hwalk

theorem reaches (h : Grows t t') (hreaches : t.Reaches limits p place) :
    t'.Reaches limits p place := by
  obtain ⟨target, hfind, hlinked⟩ := hreaches
  exact ⟨target, h.find hfind, h.linked_iff.mpr hlinked⟩

end Grows

/-- Something new at a free place is no other name of a file. -/
theorem grows_put {node : Node} (h : t.node? place = none)
    (hnew : ∀ number, node.number? = some number → number = t.fresh) :
    Grows t (t.put place node) := by
  have hothers : ∀ {other}, (∃ found, t.node? other = some found) →
      (t.put place node).node? other = t.node? other := by
    rintro other ⟨found, hfound⟩
    refine node?_put_of_ne ?_ t node
    rintro rfl
    rw [h] at hfound
    cases hfound
  have hnumber : ∀ {other number}, (t.put place node).number? other = some number →
      other = place ∧ number = t.fresh ∨ t.number? other = some number := by
    intro other number hother
    by_cases hplace : other = place
    · subst hplace
      rw [number?, node?_put_self (ne_nil_of_node?_eq_none h)] at hother
      exact .inl ⟨rfl, hnew _ hother⟩
    · rw [number?_congr (node?_put_of_ne hplace t node)] at hother
      exact .inr hother
  constructor
  case here_eq => rfl
  case directory =>
    intro other hother
    rw [entry?_eq_directory_iff] at hother ⊢
    rw [hothers ⟨_, hother⟩, hother]
  case number =>
    intro other number hother
    obtain ⟨found, hfound, -⟩ := Option.bind_eq_some_iff.mp hother
    rw [number?_congr (hothers ⟨found, hfound⟩), hother]
  case linked =>
    rintro a b (hab | ⟨number, ha, hb⟩)
    · exact .inl hab
    · rcases hnumber ha with ⟨ha, hfresh⟩ | ha <;> rcases hnumber hb with ⟨hb, hfresh'⟩ | hb
      · exact .inl (ha.trans hb.symm)
      · exact absurd hfresh (Nat.ne_of_lt (number?_lt_fresh hb))
      · exact absurd hfresh' (Nat.ne_of_lt (number?_lt_fresh ha))
      · exact .inr ⟨number, ha, hb⟩

theorem grows_rewrite (t : Tree) (number : Nat) (content : Content) :
    Grows t (t.rewrite number content) where
  here_eq := rfl
  directory := by
    intro place hplace
    rw [entry?_eq_directory_iff] at hplace ⊢
    rw [node?_rewrite, hplace]
    rfl
  number := by
    intro place k hplace
    rw [number?_rewrite, hplace]
  linked := by
    intro a b h
    rwa [Linked, number?_rewrite, number?_rewrite] at h

/-! ## Deliveries -/

/-- `t'` is `t` with the files written, one after the other, and directories made on the way. -/
structure Delivered (limits : Limits) (way : List Path) (files : List (Path × Content))
    (t t' : Tree) : Prop extends Grows t t' where
  /-- A file holds what was written to it, unless something else was written to it after that. -/
  held : ∀ {front file back}, files = front ++ file :: back →
    ∃ place, t'.find file.1 limits = .ok place ∧
      ((∀ later ∈ back, ¬t'.Reaches limits later.1 place) →
        t'.entry? place = some (.file file.2))
  /-- What nothing was written to stays as it was, and all that is new there is a directory on the
  way. -/
  frame : ∀ place, (∀ file ∈ files, ¬t'.Reaches limits file.1 place) →
    t'.entry? place = t.entry? place ∨
      t.entry? place = none ∧ t'.entry? place = some .directory ∧
        ∃ q ∈ way, t'.find q limits = .ok place

namespace Delivered

variable {way : List Path} {xs ys : List (Path × Content)}

theorem refl (limits : Limits) (way : List Path) (t : Tree) : Delivered limits way [] t t where
  toGrows := .refl t
  held := by simp
  frame := fun _ _ => .inl rfl

theorem mono {wider : List Path} (hsub : way ⊆ wider) (h : Delivered limits way xs t t') :
    Delivered limits wider xs t t' where
  toGrows := h.toGrows
  held := h.held
  frame := by
    intro place hplace
    obtain heq | ⟨hnone, hmade, q, hq, hfind⟩ := h.frame place hplace
    · exact .inl heq
    · exact .inr ⟨hnone, hmade, q, hsub hq, hfind⟩

/-- What stands somewhere is left alone by a delivery of files that are elsewhere. -/
theorem entry?_eq {entry : Entry} (h : Delivered limits way xs t t')
    (hentry : t.entry? place = some entry)
    (hapart : ∀ file ∈ xs, ¬t'.Reaches limits file.1 place) : t'.entry? place = some entry := by
  obtain heq | ⟨hnone, -⟩ := h.frame place hapart
  · rw [heq, hentry]
  · rw [hnone] at hentry
    cases hentry

theorem append (h : Delivered limits way xs t s) (h' : Delivered limits way ys s u) :
    Delivered limits way (xs ++ ys) t u where
  toGrows := h.toGrows.trans h'.toGrows
  held := by
    intro front file back hfiles
    obtain ⟨between, rfl, hys⟩ | ⟨between, hxs, hback⟩ := List.append_eq_append_iff.mp hfiles
    · exact h'.held hys
    · cases between with
      | nil => exact h'.held (hback.symm.trans (List.nil_append _).symm)
      | cons first between =>
        obtain ⟨rfl, rfl⟩ := List.cons_eq_cons.mp hback
        obtain ⟨place, hfind, hplace⟩ := h.held hxs
        refine ⟨place, h'.find hfind, fun hback => ?_⟩
        have hwritten := hplace fun later hlater hreaches =>
          hback later (List.mem_append_left _ hlater) (h'.reaches hreaches)
        exact h'.entry?_eq hwritten fun later hlater =>
          hback later (List.mem_append_right _ hlater)
  frame := by
    intro place hplace
    have hfirst := h.frame place fun x hx hreaches =>
      hplace x (List.mem_append_left _ hx) (h'.reaches hreaches)
    obtain heq' | ⟨hnone', hmade', hway'⟩ :=
      h'.frame place fun y hy => hplace y (List.mem_append_right _ hy)
    · obtain heq | ⟨hnone, hmade, q, hq, hfind⟩ := hfirst
      · exact .inl (heq'.trans heq)
      · exact .inr ⟨hnone, heq'.trans hmade, q, hq, h'.find hfind⟩
    · obtain heq | ⟨-, hmade, -⟩ := hfirst
      · exact .inr ⟨heq ▸ hnone', hmade', hway'⟩
      · rw [hmade] at hnone'
        cases hnone'

theorem trans (h : Delivered limits way [] t s) (h' : Delivered limits way ys s u) :
    Delivered limits way ys t u :=
  h.append h'

end Delivered

/-! ## Operations -/

/-- What is there for the path decides whether a directory is made. -/
theorem makeDirectory_of_find (h : t.find p limits = .ok place) :
    t.makeDirectory p limits = match t.node? place with
      | some _ => .error .alreadyExists
      | none => do
        limits.allow .add place
        return t.put place .directory := by
  rw [makeDirectory, h]
  rfl

/-- What is there for the path decides which file is opened. -/
theorem openFile_of_find (h : t.find p limits = .ok place) :
    t.openFile p limits = match t.node? place with
      | some .directory => .error .isADirectory
      | some (.file number _) => do
        limits.allow .change place
        return .old number
      | none => do
        limits.allow .add place
        return .new place := by
  rw [openFile, h]
  rfl

theorem makeDirectory_of_lookup {entry : Entry} (h : t.lookup p limits = .ok entry) :
    t.makeDirectory p limits = .error .alreadyExists := by
  obtain ⟨place, hfind, hentry, -⟩ := lookup_eq_ok_iff.mp h
  obtain ⟨node, hnode, -⟩ := Option.map_eq_some_iff.mp hentry
  rw [makeDirectory_of_find hfind, hnode]

theorem makeDirectory_eq_ok (h : t.makeDirectory p limits = .ok t') :
    ∃ place, t.find p limits = .ok place ∧ t.node? place = none ∧ t' = t.put place .directory := by
  obtain ⟨place, hfind, -⟩ := bind_eq_ok.mp h
  rw [makeDirectory_of_find hfind] at h
  refine ⟨place, hfind, ?_⟩
  cases hnode : t.node? place with
  | some node =>
    rw [hnode] at h
    cases h
  | none =>
    rw [hnode] at h
    obtain ⟨-, -, hput⟩ := bind_eq_ok.mp h
    cases hput
    exact ⟨rfl, rfl⟩

theorem openFile_eq_ok {handle : Handle} (h : t.openFile p limits = .ok handle) :
    ∃ place, t.find p limits = .ok place ∧
      ((∃ number, handle = .old number ∧ t.number? place = some number) ∨
        handle = .new place ∧ t.node? place = none) := by
  obtain ⟨place, hfind, -⟩ := bind_eq_ok.mp h
  rw [openFile_of_find hfind] at h
  refine ⟨place, hfind, ?_⟩
  cases hnode : t.node? place with
  | none =>
    rw [hnode] at h
    obtain ⟨-, -, hnew⟩ := bind_eq_ok.mp h
    cases hnew
    exact .inr ⟨rfl, rfl⟩
  | some node =>
    rw [hnode] at h
    cases node with
    | directory => cases h
    | file number old =>
      obtain ⟨-, -, hold⟩ := bind_eq_ok.mp h
      cases hold
      exact .inl ⟨number, rfl, number?_eq_of_node? hnode⟩

theorem delivered_makeDirectory (h : t.makeDirectory p limits = .ok t') :
    Delivered limits [p] [] t t' := by
  obtain ⟨place, hfind, hnode, rfl⟩ := makeDirectory_eq_ok h
  have hgrows : Grows t (t.put place .directory) := grows_put hnode nofun
  refine ⟨hgrows, by simp, fun other _ => ?_⟩
  by_cases hother : other = place
  · subst hother
    refine .inr ⟨entry?_eq_none_iff.mpr hnode, ?_, p, List.mem_singleton_self p, hgrows.find hfind⟩
    rw [entry?_eq_directory_iff, node?_put_self (ne_nil_of_node?_eq_none hnode)]
  · exact .inl (entry?_congr (node?_put_of_ne hother _ _))

theorem delivered_fill {handle : Handle} (h : t.openFile p limits = .ok handle)
    (content : Content) : Delivered limits [] [(p, content)] t (t.fill content handle) := by
  obtain ⟨place, hfind, hhandle⟩ := openFile_eq_ok h
  -- the new content is at the place, and at the others everything is as it was
  have hwritten : Grows t (t.fill content handle) ∧
      entry? (t.fill content handle) place = some (.file content) ∧
      ∀ other, ¬(t.fill content handle).Linked place other →
        entry? (t.fill content handle) other = t.entry? other := by
    obtain ⟨number, rfl, hnumber⟩ | ⟨rfl, hnode⟩ := hhandle
    · refine ⟨grows_rewrite t number content, entry?_rewrite_of_number hnumber content, ?_⟩
      intro other hother
      refine entry?_rewrite_of_ne (fun hsame => hother (.inr ⟨number, ?_, ?_⟩)) content
      · rw [fill, number?_rewrite, hnumber]
      · rw [fill, number?_rewrite, hsame]
    · refine ⟨grows_put hnode fun number h => (Option.some.inj h).symm, ?_, ?_⟩
      · rw [fill, entry?, node?_put_self (ne_nil_of_node?_eq_none hnode)]
        rfl
      · intro other hother
        exact entry?_congr (node?_put_of_ne (fun heq => hother (.inl heq.symm)) _ _)
  obtain ⟨hgrows, hheld, hothers⟩ := hwritten
  refine ⟨hgrows, ?_, ?_⟩
  · intro front file back hfiles
    obtain ⟨rfl, hrest⟩ | ⟨rest, -, hnil⟩ := List.cons_eq_append_iff.mp hfiles
    · obtain ⟨rfl, -⟩ := List.cons_eq_cons.mp hrest
      exact ⟨place, hgrows.find hfind, fun _ => hheld⟩
    · simp at hnil
  · intro other hother
    refine .inl (hothers other fun hlinked => ?_)
    exact hother _ (List.mem_singleton_self _) ⟨place, hgrows.find hfind, hlinked⟩

/-- **Saving a file** writes it, or is refused, or leaves something else in the file. -/
theorem delivered_save (t : Tree) (p : Path) (content : Content) (limits : Limits) :
    (∃ t', t.Delivered limits [] [(p, content)] t' ∧ t.save p content limits = (.ok (), t')) ∨
    (∃ fault, t.openFile p limits = .error fault ∧
      t.save p content limits = (.error fault, t)) ∨
    ∃ left fault t', limits.stop p content = some (left, fault) ∧
      t.Delivered limits [] [(p, left)] t' ∧ t.save p content limits = (.error fault, t') := by
  unfold save
  cases hopen : t.openFile p limits with
  | error fault => exact .inr (.inl ⟨fault, rfl, rfl⟩)
  | ok handle =>
    cases hstop : limits.stop p content with
    | none => exact .inl ⟨_, delivered_fill hopen content, rfl⟩
    | some stopped => exact .inr (.inr ⟨_, _, _, rfl, delivered_fill hopen stopped.1, rfl⟩)

/-! ## Refusals -/

/-- There is no directory at the path, and the disk refuses to make one. -/
structure Blocks (limits : Limits) (t : Tree) (p : Path) (fault : DiskFault) : Prop where
  makeDirectory_eq : t.makeDirectory p limits = .error fault
  lookup_ne : t.lookup p limits ≠ .ok .directory

/-- The disk refuses to make a directory above the path, or to open a file there for writing. -/
def Refuses (limits : Limits) (t : Tree) (p : Path) (fault : DiskFault) : Prop :=
  (∃ q ∈ p.above, t.Blocks limits q fault) ∨ t.openFile p limits = .error fault

end Tree

end ToolScaffold
