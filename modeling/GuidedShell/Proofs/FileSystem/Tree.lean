import GuidedShell.Proofs.FilePath.Join
import GuidedShell.Proofs.FileSystem.Writing

/-! Trees in which every entry lies in a directory, and what a listing of one of their directories
holds. -/
namespace GuidedShell.FileSystem

/-- Every entry has a name that a path can spell, and lies in a directory. -/
structure IsTree (fs : FileSystem) : Prop where
  spelled : ∀ e ∈ fs.entries, ∀ s ∈ e.1, FilePath.IsName s
  rooted : ∀ e ∈ fs.entries, fs.node? e.1.tail = some .directory

instance (fs : FileSystem) : Decidable fs.IsTree :=
  decidable_of_iff ((∀ e ∈ fs.entries, ∀ s ∈ e.1, FilePath.IsName s) ∧
      ∀ e ∈ fs.entries, fs.node? e.1.tail = some .directory)
    ⟨fun h => ⟨h.1, h.2⟩, fun h => ⟨h.spelled, h.rooted⟩⟩

variable {fs : FileSystem} {links : Nat} {here l dir : Location} {s : FileName}
  {first second : List FileName} {p q : FilePath} {node : Node}

theorem mem_names_iff : s ∈ fs.names dir ↔ ∃ node, (s :: dir, node) ∈ fs.entries := by
  unfold names
  rw [List.mem_filterMap]
  constructor
  · rintro ⟨⟨place, node⟩, hmem, heq⟩
    dsimp only at heq
    split at heq
    · cases heq
    · split at heq
      · rename_i habove
        cases heq
        subst habove
        exact ⟨node, hmem⟩
      · cases heq
  · rintro ⟨node, hmem⟩
    exact ⟨(s :: dir, node), hmem, if_pos rfl⟩

theorem mem_entries_of_node? {loc : Location} (hloc : loc ≠ []) (h : fs.node? loc = some node) :
    (loc, node) ∈ fs.entries := by
  unfold node? at h
  rw [if_neg (by simpa using hloc)] at h
  obtain ⟨front, back, hentries, -⟩ := List.lookup_eq_some_iff.1 h
  rw [hentries]
  exact List.mem_append_right _ List.mem_cons_self

namespace IsTree

theorem of_mem_names (h : fs.IsTree) (hs : s ∈ fs.names dir) : FilePath.IsName s := by
  obtain ⟨node, hmem⟩ := mem_names_iff.1 hs
  exact h.spelled _ hmem s List.mem_cons_self

/-- What stands under a place makes it a directory, and is listed there. -/
theorem directory_of_entry (h : fs.IsTree) (hnode : fs.node? (s :: dir) = some node) :
    fs.node? dir = some .directory ∧ s ∈ fs.names dir := by
  have hmem := mem_entries_of_node? (by simp) hnode
  exact ⟨h.rooted _ hmem, mem_names_iff.2 ⟨node, hmem⟩⟩

end IsTree

/-! Writing. -/

/-- Where a way ends at nothing, a name was asked for that an entry can have. -/
theorem Leads.isName_of_none {purpose : Purpose} {steps : List FileName}
    (h : Leads fs purpose links here steps l) (hstands : fs.Stands here)
    (hsteps : ∀ s ∈ steps, FilePath.slash ∉ s) (hnone : fs.node? l = none) :
    ∃ s above, l = s :: above ∧ FilePath.IsName s := by
  induction h with
  | arrive =>
    rw [hstands.node?] at hnone
    cases hnone
  | stay _ _ _ ih => exact ih hstands (fun s hs => hsteps s (List.mem_cons_of_mem _ hs)) hnone
  | up _ _ ih => exact ih hstands.tail (fun s hs => hsteps s (List.mem_cons_of_mem _ hs)) hnone
  | @down _ _ _ _ _ node _ _ _ hnode hlink next ih =>
    cases node with
    | link target => exact absurd rfl (hlink target)
    | directory =>
      exact ih (hstands.cons hnode) (fun s hs => hsteps s (List.mem_cons_of_mem _ hs)) hnone
    | file | device =>
      obtain ⟨-, rfl⟩ := next.eq_of_not_isOpen (not_isOpen_of_isLeaf hnode trivial)
      rw [hnode] at hnone
      cases hnone
  | @follow _ _ _ _ _ target _ _ _ _ _ ih =>
    refine ih (hstands.origin target) (fun s hs => ?_) hnone
    rcases List.mem_append.1 hs with hs | hs
    · exact FilePath.slash_not_mem_of_mem_steps hs
    · exact hsteps s (List.mem_cons_of_mem _ hs)
  | new _ hs => exact ⟨_, _, rfl, fun hnil => hs.moves (.inl hnil), hsteps _ List.mem_cons_self⟩

namespace IsTree

theorem spelled_of_node? (h : fs.IsTree) (hnode : fs.node? l = some node) :
    ∀ s ∈ l, FilePath.IsName s := by
  by_cases hl : l = []
  · simp [hl]
  · exact h.spelled _ (mem_entries_of_node? hl hnode)

/-- An entry that no other lies below can be put into a directory, or replaced there. -/
theorem put (h : fs.IsTree) (hspelled : ∀ s ∈ l, FilePath.IsName s)
    (habove : fs.node? l.tail = some .directory) (hleaf : fs.node? l ≠ some .directory) :
    (fs.put l node).IsTree := by
  have hsame (place : Location) (hplace : fs.node? place = some .directory) :
      (fs.put l node).node? place = some .directory := by
    rw [fs.node?_put_of_ne, hplace]
    rintro rfl
    exact hleaf hplace
  constructor
  · intro e he
    rcases List.mem_cons.1 he with rfl | he
    · exact hspelled
    · exact h.spelled e (List.mem_filter.1 he).1
  · intro e he
    rcases List.mem_cons.1 he with rfl | he
    · exact hsame _ habove
    · exact hsame _ (h.rooted e (List.mem_filter.1 he).1)

theorem write {fs' : FileSystem} {content : Bytes} (h : fs.IsTree)
    (hstands : fs.Stands (origin here p)) (hwrite : fs.write here p content = .ok fs') :
    fs'.IsTree := by
  obtain ⟨loc, htarget, ⟨-, -, -, rfl⟩ | ⟨-, mode, rfl⟩⟩ := write_eq_ok hwrite
  · exact h
  · obtain ⟨-, hreach, htakes⟩ := target_eq_ok_iff.1 htarget
    cases hnode : fs.node? loc with
    | some node =>
      refine h.put (h.spelled_of_node? hnode) ?_ htakes.directory
      exact h.rooted _ (mem_entries_of_node? (ne_nil_of_target htarget) hnode)
    | none =>
      obtain ⟨s, above, rfl, hs⟩ := (reach_eq_ok_iff.1 hreach).2.isName_of_none hstands
        (fun s hs => FilePath.slash_not_mem_of_mem_steps hs) hnode
      have habove := (htakes.room hnode).1
      refine h.put ?_ habove htakes.directory
      intro s' hmem
      rcases List.mem_cons.1 hmem with rfl | hmem
      · exact hs
      · exact h.spelled_of_node? habove s' hmem

end IsTree

/-! Listing. -/

/-- A way in two parts comes through a place between them, from which any other second part may be
taken instead. -/
theorem Leads.split (h : Leads fs .look links here (first ++ second) l) (hne : second ≠ []) :
    ∃ there k, Leads fs .look k there second l ∧
      ∀ {steps' l'}, Leads fs .look k there steps' l' →
        Leads fs .look links here (first ++ steps') l' := by
  have hadmits (rest : List FileName) : Admits .look rest := by simp [Admits]
  generalize hall : first ++ second = all at h
  induction h generalizing first with
  | arrive => exact absurd (List.append_eq_nil_iff.1 hall).2 hne
  | @stay links here s rest l hopen hs next ih =>
    cases first with
    | nil =>
      subst hall
      exact ⟨here, links, .stay hopen hs next, id⟩
    | cons s' first =>
      obtain ⟨rfl, rfl⟩ := List.cons.inj hall
      obtain ⟨there, k, hsecond, hother⟩ := ih rfl
      exact ⟨there, k, hsecond, fun h' => .stay hopen hs (hother h')⟩
  | @up links here rest l hopen next ih =>
    cases first with
    | nil =>
      subst hall
      exact ⟨here, links, .up hopen next, id⟩
    | cons s' first =>
      obtain ⟨rfl, rfl⟩ := List.cons.inj hall
      obtain ⟨there, k, hsecond, hother⟩ := ih rfl
      exact ⟨there, k, hsecond, fun h' => .up hopen (hother h')⟩
  | @down links here s rest l node hopen hs hrest hnode hlink next ih =>
    cases first with
    | nil =>
      subst hall
      exact ⟨here, links, .down hopen hs hrest hnode hlink next, id⟩
    | cons s' first =>
      obtain ⟨rfl, rfl⟩ := List.cons.inj hall
      obtain ⟨there, k, hsecond, hother⟩ := ih rfl
      exact ⟨there, k, hsecond, fun h' => .down hopen hs (hadmits _) hnode hlink (hother h')⟩
  | @follow links here s rest l target hopen hs hrest hnode next ih =>
    cases first with
    | nil =>
      subst hall
      exact ⟨here, links + 1, .follow hopen hs hrest hnode next, id⟩
    | cons s' first =>
      obtain ⟨rfl, rfl⟩ := List.cons.inj hall
      obtain ⟨there, k, hsecond, hother⟩ := ih (List.append_assoc ..)
      refine ⟨there, k, hsecond, fun h' => .follow hopen hs (hadmits _) hnode ?_⟩
      have hway := hother h'
      rw [List.append_assoc] at hway
      exact hway
  | @new links here s hopen hs hnode =>
    cases first with
    | nil =>
      subst hall
      exact ⟨here, links, .new hopen hs hnode, id⟩
    | cons s' first =>
      obtain ⟨-, htail⟩ := List.cons.inj hall
      exact absurd (List.append_eq_nil_iff.1 htail).2 hne

theorem list_eq_ok_iff {names : List FileName} : fs.list here p = .ok names ↔
    checkPath p = .ok () ∧ ∃ l, fs.reach .look here p = .ok l ∧
      fs.node? l = some .directory ∧ fs.permits l .read = true ∧ fs.names l = names := by
  unfold list
  cases hfind : fs.find here p with
  | error fault =>
    simp only [bind, Except.bind]
    constructor
    · exact nofun
    · rintro ⟨hcheck, l, hreach, hnode, -⟩
      rw [node?_of_find_error hfind hcheck hreach] at hnode
      cases hnode
  | ok place =>
    obtain ⟨hcheck, hreach, -⟩ := find_eq_ok_iff.1 hfind
    cases hnode : fs.node? place with
    | none => simp [bind, Except.bind, hcheck, hreach, hnode]
    | some node =>
      cases hpermits : fs.permits place .read <;>
        cases node <;> simp [bind, Except.bind, hcheck, hreach, hnode, hpermits]

theorem checkPath_of_shorter (h : p <+: q) (hq : checkPath q = .ok ()) : checkPath p = .ok () := by
  have hzero : 0 ∉ p := fun hmem => zero_not_mem_of_checkPath hq (h.subset hmem)
  have hlength := h.length_le
  unfold checkPath at hq ⊢
  rw [if_neg (by simpa using hzero)]
  split at hq
  · cases hq
  · split at hq
    · cases hq
    · rw [if_neg (by omega)]

/-- A step to something that is there meets an entry, which may be a link. -/
theorem Leads.exists_entry (h : Leads fs .look links here [s] l) (hs : FilePath.dot ∉ s)
    (hname : s ≠ []) (hl : fs.node? l = some node) : ∃ entry, fs.node? (s :: here) = some entry := by
  cases h with
  | stay _ hmoves =>
    rcases hmoves with rfl | ⟨rfl, -⟩
    · exact absurd rfl hname
    · exact absurd List.mem_cons_self hs
  | up => exact absurd List.mem_cons_self hs
  | down _ _ _ hnode => exact ⟨_, hnode⟩
  | follow _ _ _ hnode => exact ⟨_, hnode⟩
  | new => exact ⟨node, hl⟩

/-- A path that goes on after some names goes on from a place to which the names alone lead, with a
slash after them or without. -/
theorem Leads.split_parts {p : FilePath}
    (h : Leads fs .look links here (FilePath.parts p ++ second) l) (hne : second ≠ []) :
    ∃ there k, Leads fs .look k there second l ∧
      Leads fs .look links here (FilePath.steps p) there := by
  obtain ⟨there, k, hsecond, hother⟩ := h.split hne
  have hopen : fs.IsOpen there :=
    Classical.byContradiction fun hclosed => hne (hsecond.eq_of_not_isOpen hclosed).1
  refine ⟨there, k, hsecond, ?_⟩
  rw [FilePath.steps_eq]
  refine hother ?_
  split
  · exact .stay hopen (.inl rfl) .arrive
  · exact .arrive

/-- A path to an entry of a directory goes through the directory, which has the entry. It can be
listed, if that is permitted. -/
theorem IsTree.list_of_stat_join (h : fs.IsTree) {p : FilePath} (hp : p ≠ [])
    (hs : FilePath.IsName s) (hdot : FilePath.dot ∉ s)
    (hstat : fs.stat here (FilePath.join p s) = .ok node) (hread : fs.allows here p .read = true) :
    ∃ names, fs.list here p = .ok names ∧ s ∈ names := by
  obtain ⟨hcheck, l, hreach, hnode⟩ := stat_eq_ok_iff.1 hstat
  obtain ⟨-, -, -, habsolute⟩ := FilePath.exists_join_eq hp hs.isAbsolute
  have horigin : origin here (FilePath.join p s) = origin here p := by
    unfold origin
    rw [habsolute]
  have hleads := (reach_eq_ok_iff.1 hreach).2
  rw [horigin, FilePath.steps_join hp hs.nonempty hs.isAbsolute, hs.steps_eq] at hleads
  obtain ⟨there, k, hlast, hway⟩ := hleads.split_parts (by simp)
  obtain ⟨entry, hentry⟩ := hlast.exists_entry hdot hs.nonempty hnode
  obtain ⟨hdirectory, hmem⟩ := h.directory_of_entry hentry
  have hreach : fs.reach .look here p = .ok there := reach_eq_ok_iff.2 ⟨hp, hway⟩
  obtain ⟨found, hfind, hpermits⟩ := exists_find_of_allows hread
  have heq : there = found := Except.ok.inj (hreach.symm.trans (find_eq_ok_iff.1 hfind).2.1)
  subst heq
  exact ⟨fs.names there, list_eq_ok_iff.2 ⟨checkPath_of_shorter (FilePath.prefix_join hs) hcheck,
    there, hreach, hdirectory, hpermits, rfl⟩, hmem⟩

/-- What can be listed may be read. -/
theorem allows_of_list {names : List FileName} (h : fs.list here p = .ok names) :
    fs.allows here p .read = true := by
  obtain ⟨hcheck, l, hreach, hnode, hpermits, -⟩ := list_eq_ok_iff.1 h
  rw [allows_of_find (find_eq_ok_iff.2 ⟨hcheck, hreach, by simp [hnode]⟩), hpermits]

end GuidedShell.FileSystem
