import GuidedShell.Proofs.FilePath.Join
import GuidedShell.Proofs.FileSystem.Writing

/-! The path of a canonical place leads back to it, without any link on the way. -/
namespace GuidedShell

theorem Location.isAbsolute_path (loc : Location) : FilePath.isAbsolute loc.path = true := by
  cases loc with
  | nil => rfl
  | cons s above =>
    have hpath : Location.path (s :: above) =
        (above.reverse ++ [s]).flatMap (FilePath.slash :: ·) := by
      rw [← List.reverse_cons]
      rfl
    rw [hpath]
    cases above.reverse <;> rfl

theorem Location.path_ne_nil (loc : Location) : loc.path ≠ [] := by
  intro hnil
  have habsolute := loc.isAbsolute_path
  rw [hnil] at habsolute
  cases habsolute

theorem FilePath.isAbsolute_join {base : FilePath} (h : isAbsolute base = true) (p : FilePath) :
    isAbsolute (join base p) = true := by
  unfold join
  split
  · assumption
  · cases base with
    | nil => cases h
    | cons b bs =>
      split <;> exact h

namespace FileSystem

/-- Every name in the place can be written in a path, where it stands for itself. -/
def IsSpelled (loc : Location) : Prop := ∀ s ∈ loc, IsEntry s ∧ FilePath.slash ∉ s

variable {fs : FileSystem} {purpose : Purpose} {links : Nat} {here l loc : Location} {s : FileName}
  {rest steps : List FileName} {p : FilePath}

namespace IsSpelled

theorem nil : IsSpelled [] := fun _ h => absurd h List.not_mem_nil

theorem tail (h : IsSpelled loc) : IsSpelled loc.tail := fun s hs => h s (List.mem_of_mem_tail hs)

theorem cons (h : IsSpelled loc) (hs : IsEntry s) (hslash : FilePath.slash ∉ s) :
    IsSpelled (s :: loc) := by
  intro n hn
  rcases List.mem_cons.1 hn with rfl | hn
  · exact ⟨hs, hslash⟩
  · exact h n hn

theorem origin (h : IsSpelled here) (p : FilePath) : IsSpelled (origin here p) := by
  unfold FileSystem.origin
  split
  · exact nil
  · exact h

theorem isName (h : IsSpelled loc) (hs : s ∈ loc) : FilePath.IsName s where
  nonempty := fun hnil => (h s hs).1.moves (.inl hnil)
  noSlash := (h s hs).2

/-- The path of a place is made of the names that lead there. -/
theorem parts_path (h : IsSpelled loc) :
    FilePath.parts (loc.reverse.flatMap (FilePath.slash :: ·)) = loc.reverse := by
  induction loc with
  | nil => rfl
  | cons s above ih =>
    rw [List.reverse_cons, List.flatMap_append, List.flatMap_singleton, FilePath.parts_append,
      ih h.tail, (h.isName List.mem_cons_self).parts_eq]

theorem parts_location (h : IsSpelled loc) : FilePath.parts loc.path = loc.reverse := by
  cases loc with
  | nil => rfl
  | cons s above => exact h.parts_path

theorem steps_path (h : IsSpelled (s :: loc)) :
    FilePath.steps (Location.path (s :: loc)) = (s :: loc).reverse := by
  have hpath : Location.path (s :: loc) = (s :: loc).reverse.flatMap (FilePath.slash :: ·) := rfl
  have hlast : (Location.path (s :: loc)).getLast? ≠ some FilePath.slash := by
    have hend : Location.path (s :: loc) =
        (loc.reverse.flatMap (FilePath.slash :: ·) ++ [FilePath.slash]) ++ s := by
      rw [hpath, List.reverse_cons, List.flatMap_append, List.flatMap_singleton, List.append_assoc]
      rfl
    rw [hend]
    exact (h.isName List.mem_cons_self).getLast?_ne _
  rw [FilePath.steps_eq, if_neg hlast, List.append_nil, hpath, h.parts_path]

end IsSpelled

theorem Leads.isSpelled (h : Leads fs purpose links here steps l) (hhere : IsSpelled here)
    (hsteps : ∀ s ∈ steps, FilePath.slash ∉ s) : IsSpelled l := by
  induction h with
  | arrive => exact hhere
  | stay _ _ _ ih => exact ih hhere fun s hs => hsteps s (List.mem_cons_of_mem _ hs)
  | up _ _ ih => exact ih hhere.tail fun s hs => hsteps s (List.mem_cons_of_mem _ hs)
  | down _ hs _ _ _ _ ih =>
    exact ih (hhere.cons hs (hsteps _ List.mem_cons_self))
      fun s hs => hsteps s (List.mem_cons_of_mem _ hs)
  | @follow _ _ _ _ _ target _ _ _ _ _ ih =>
    refine ih (hhere.origin target) fun s hs => ?_
    rcases List.mem_append.1 hs with hs | hs
    · exact FilePath.slash_not_mem_of_mem_steps hs
    · exact hsteps s (List.mem_cons_of_mem _ hs)
  | new _ hs => exact hhere.cons hs (hsteps _ List.mem_cons_self)

/-- A way from a directory ends in a directory. Whatever it ends at, it is there. -/
theorem Leads.stands_tail (h : Leads fs purpose links here steps l) (hstands : fs.Stands here) :
    fs.Stands l.tail := by
  induction h with
  | arrive => exact hstands.tail
  | stay _ _ _ ih => exact ih hstands
  | up _ _ ih => exact ih hstands.tail
  | @down _ _ _ _ _ node _ _ _ hnode hlink next ih =>
    cases node with
    | link target => exact absurd rfl (hlink target)
    | directory => exact ih (hstands.cons hnode)
    | file | device =>
      obtain ⟨-, rfl⟩ := next.eq_of_not_isOpen (not_isOpen_of_isLeaf hnode trivial)
      exact hstands
  | @follow _ _ _ _ _ target _ _ _ _ _ ih => exact ih (hstands.origin target)
  | new => exact hstands

/-- Names can be looked for in the place and in everything above it. -/
def Searched (fs : FileSystem) (here : Location) : Prop :=
  ∀ above, above <:+ here → fs.permits above .execute = true

namespace Searched

theorem permits (h : fs.Searched l) : fs.permits l .execute = true := h l (List.suffix_refl _)

theorem tail (h : fs.Searched l) : fs.Searched l.tail := fun above habove =>
  h above (habove.trans (List.tail_suffix l))

theorem cons (h : fs.Searched l) (hs : fs.permits (s :: l) .execute = true) :
    fs.Searched (s :: l) := by
  intro above habove
  rcases List.suffix_cons_iff.1 habove with rfl | habove
  · exact hs
  · exact h above habove

end Searched

/-- A way that begins with a name is one through the entry of that name. -/
theorem leads_cons_iff (hs : IsEntry s) {node : Node} (hnode : fs.node? (s :: here) = some node)
    (hlink : ∀ target, node ≠ .link target) :
    Leads fs .look links here (s :: rest) l ↔
      fs.IsSearchable here ∧ Leads fs .look links (s :: here) rest l := by
  constructor
  · intro h
    cases h with
    | stay _ hremains => exact absurd (hremains.imp_right And.left) hs.moves
    | up => exact absurd rfl hs.down
    | down hopen _ _ _ _ next => exact ⟨hopen, next⟩
    | follow _ _ _ hnode' =>
      rw [hnode] at hnode'
      exact absurd (Option.some.inj hnode') (hlink _)
    | new _ _ hnone =>
      rw [hnode] at hnone
      cases hnone
  · rintro ⟨hopen, next⟩
    exact .down hopen hs (by simp [Admits]) hnode hlink next

theorem Leads.isSearchable (h : Leads fs .look links here (s :: rest) l) (hs : IsEntry s) :
    fs.IsSearchable here := by
  cases h with
  | stay _ hremains => exact absurd (hremains.imp_right And.left) hs.moves
  | up => exact absurd rfl hs.down
  | down hopen | follow hopen | new hopen => exact hopen

/-- A way on from a directory is a way from the root, through the names of the directory, and that
takes a search in every place above. -/
theorem Stands.leads_append_iff (h : fs.Stands here) (hspelled : IsSpelled here) (hs : IsEntry s) :
    Leads fs .look links [] (here.reverse ++ s :: rest) l ↔
      fs.Searched here ∧ Leads fs .look links here (s :: rest) l := by
  induction here generalizing s rest with
  | nil =>
    refine ⟨fun hway => ⟨?_, hway⟩, And.right⟩
    intro above habove
    rw [List.suffix_nil.1 habove]
    exact (hway.isSearchable hs).2
  | cons name above ih =>
    have hname := (hspelled name List.mem_cons_self).1
    rw [List.reverse_cons, List.append_assoc, List.singleton_append,
      ih h.tail hspelled.tail hname, leads_cons_iff hname h.node? nofun]
    constructor
    · rintro ⟨hsearched, -, hway⟩
      exact ⟨hsearched.cons (hway.isSearchable hs).2, hway⟩
    · rintro ⟨hsearched, hway⟩
      exact ⟨hsearched.tail, ⟨h.tail.isOpen, hsearched.tail.permits⟩, hway⟩

theorem Stands.leads_append (h : fs.Stands here) (hsearched : fs.Searched here)
    (hspelled : IsSpelled here) (hway : Leads fs .look links here rest l) :
    Leads fs .look links [] (here.reverse ++ rest) l := by
  cases here with
  | nil => exact hway
  | cons name above =>
    have hname := (hspelled name List.mem_cons_self).1
    have hstep : Leads fs .look links above (name :: rest) l :=
      (leads_cons_iff hname h.node? nofun).2 ⟨⟨h.tail.isOpen, hsearched.tail.permits⟩, hway⟩
    rw [List.reverse_cons, List.append_assoc]
    exact (h.tail.leads_append_iff hspelled.tail hname).2 ⟨hsearched.tail, hstep⟩

/-- The path of a place that lies in a directory, and is no link, leads there and nowhere else, as
far as it can be followed. -/
theorem leads_path_iff (habove : fs.Stands loc.tail) (hspelled : IsSpelled loc) {node : Node}
    (hnode : fs.node? loc = some node) (hlink : ∀ target, node ≠ .link target) :
    Leads fs .look links [] (FilePath.steps loc.path) l ↔
      l = loc ∧ (loc ≠ [] → fs.Searched loc.tail) := by
  cases loc with
  | nil =>
    have hroot : FilePath.steps (Location.path []) = [FilePath.stay] := by decide
    rw [hroot]
    constructor
    · intro h
      cases h with
      | stay _ _ next =>
        cases next
        exact ⟨rfl, absurd rfl⟩
      | down _ hs | follow _ hs | new _ hs => exact absurd (.inl rfl) hs.moves
    · rintro ⟨rfl, -⟩
      exact .stay fs.stands_nil.isOpen (.inl rfl) .arrive
  | cons s above =>
    have hs := (hspelled s List.mem_cons_self).1
    have hstands : fs.Stands above := habove
    rw [hspelled.steps_path, List.reverse_cons, hstands.leads_append_iff hspelled.tail hs,
      leads_cons_iff hs hnode hlink]
    constructor
    · rintro ⟨hsearched, -, hlast⟩
      cases hlast
      exact ⟨rfl, fun _ => hsearched⟩
    · rintro ⟨rfl, hsearched⟩
      have habove : fs.Searched above := hsearched (List.cons_ne_nil s above)
      exact ⟨habove, ⟨hstands.isOpen, habove.permits⟩, .arrive⟩

theorem reach_path_iff (habove : fs.Stands loc.tail) (hspelled : IsSpelled loc) {node : Node}
    (hnode : fs.node? loc = some node) (hlink : ∀ target, node ≠ .link target) :
    fs.reach .look here loc.path = .ok l ↔ l = loc ∧ (loc ≠ [] → fs.Searched loc.tail) := by
  have horigin : FileSystem.origin here loc.path = [] := if_pos loc.isAbsolute_path
  rw [reach_eq_ok_iff, horigin, leads_path_iff habove hspelled hnode hlink]
  exact and_iff_right loc.path_ne_nil

theorem absolute_eq_ok_iff : fs.absolute here p = .ok loc ↔
    0 ∉ p ∧ (FilePath.isAbsolute p = true ∨ (fs.node? here).isSome) ∧
      fs.reach .look here p = .ok loc ∧ (fs.node? loc).isSome := by
  unfold absolute
  split
  · rename_i hzero
    have hmem : 0 ∈ p := by simpa using hzero
    simp [hmem]
  · split
    · rename_i hgone
      have hneither : ¬(FilePath.isAbsolute p = true ∨ (fs.node? here).isSome) := by
        simpa using hgone
      simp [hneither]
    · rename_i hfound
      have heither : FilePath.isAbsolute p = true ∨ (fs.node? here).isSome := by
        cases habsolute : FilePath.isAbsolute p with
        | true => exact .inl rfl
        | false => exact .inr (Option.isSome_iff_ne_none.2 (by simpa [habsolute] using hfound))
      rw [canonical_eq_ok_iff]
      simp [heither]

theorem enter_eq_ok_iff : fs.enter here p = .ok loc ↔
    checkPath p = .ok () ∧ fs.reach .look here p = .ok loc ∧ fs.node? loc = some .directory ∧
      fs.permits loc .execute = true := by
  unfold enter
  cases hfind : fs.find here p with
  | error fault =>
    simp only [bind, Except.bind]
    constructor
    · exact nofun
    · rintro ⟨hcheck, hreach, hnode, -⟩
      rw [node?_of_find_error hfind hcheck hreach] at hnode
      cases hnode
  | ok place =>
    obtain ⟨hcheck, hreach, -⟩ := find_eq_ok_iff.1 hfind
    simp only [bind, Except.bind, hcheck, hreach, true_and, Except.ok.injEq]
    constructor
    · intro h
      split at h
      · rename_i hnode
        split at h
        · rename_i hpermits
          cases h
          exact ⟨rfl, hnode, hpermits⟩
        · cases h
      · cases h
    · rintro ⟨rfl, hnode, hpermits⟩
      rw [hnode]
      exact if_pos hpermits

theorem isSpelled_of_absolute (hp : FilePath.isAbsolute p = true)
    (hfound : fs.absolute here p = .ok loc) : IsSpelled loc := by
  have hway := (reach_eq_ok_iff.1 (absolute_eq_ok_iff.1 hfound).2.2.1).2
  have horigin : FileSystem.origin here p = [] := if_pos hp
  rw [horigin] at hway
  exact hway.isSpelled .nil fun s hs => FilePath.slash_not_mem_of_mem_steps hs

/-- A directory that has been found from the root is entered by the path of its place, and nothing
else is. Names can be looked for on all of the way. -/
theorem eq_of_enter_absolute {entered : Location} (hp : FilePath.isAbsolute p = true)
    (hfound : fs.absolute here p = .ok loc) (henter : fs.enter here loc.path = .ok entered) :
    entered = loc ∧ fs.Stands loc ∧ fs.Searched loc := by
  have hspelled := isSpelled_of_absolute hp hfound
  obtain ⟨-, -, hreach, hsome⟩ := absolute_eq_ok_iff.1 hfound
  obtain ⟨-, hback, hdirectory, hpermits⟩ := enter_eq_ok_iff.1 henter
  obtain ⟨node, hnode⟩ := Option.isSome_iff_exists.1 hsome
  have horigin : FileSystem.origin here p = [] := if_pos hp
  have hway := (reach_eq_ok_iff.1 hreach).2
  rw [horigin] at hway
  have habove := hway.stands_tail fs.stands_nil
  have hlink (target : FilePath) : node ≠ .link target := by
    rintro rfl
    exact (hway.unlinked fs.stands_nil.unlinked).node? target hnode
  obtain ⟨rfl, hsearched⟩ := (reach_path_iff habove hspelled hnode hlink).1 hback
  refine ⟨rfl, ?_⟩
  cases entered with
  | nil =>
    refine ⟨fs.stands_nil, fun above hsuffix => ?_⟩
    rw [List.suffix_nil.1 hsuffix]
    exact hpermits
  | cons s above =>
    have hsearched : fs.Searched above := hsearched (List.cons_ne_nil s above)
    exact ⟨habove.cons hdirectory, hsearched.cons hpermits⟩

theorem Stands.eq_of_enter {entered : Location} (h : fs.Stands loc) (hspelled : IsSpelled loc)
    (henter : fs.enter here loc.path = .ok entered) : entered = loc :=
  ((reach_path_iff h.tail hspelled h.node? nofun).1 (enter_eq_ok_iff.1 henter).2.1).1

theorem Stands.enter_path (h : fs.Stands loc) (hsearched : fs.Searched loc)
    (hspelled : IsSpelled loc) (hcheck : checkPath loc.path = .ok ()) :
    fs.enter here loc.path = .ok loc :=
  enter_eq_ok_iff.2 ⟨hcheck,
    (reach_path_iff h.tail hspelled h.node? nofun).2 ⟨rfl, fun _ => hsearched.tail⟩, h.node?,
    hsearched.permits⟩

/-- A dot is the directory itself, if it is found at all. -/
theorem Stands.find_here (h : fs.Stands here) : fs.find here FilePath.here =
    if fs.permits here .execute then .ok here else .error .permissionDenied := by
  have hsteps : FilePath.steps FilePath.here = [FilePath.here] := by decide
  have horigin : FileSystem.origin here FilePath.here = here := if_neg (by decide)
  have hwalk : fs.walk .look maxLinks here [FilePath.here] =
      if fs.permits here .execute then .ok here else .error .permissionDenied := by
    rw [walk_eq, walkWith_cons h.isOpen, if_neg (by decide)]
    cases fs.permits here .execute <;> rfl
  have hreach : fs.reach .look here FilePath.here =
      if fs.permits here .execute then .ok here else .error .permissionDenied := by
    unfold reach
    rw [horigin, hsteps, if_neg (by decide), hwalk]
  have hcheck : checkPath FilePath.here = .ok () := rfl
  have hzero : FilePath.here.contains 0 = false := by decide
  unfold find canonical
  rw [hcheck, hzero, hreach]
  cases hpermits : fs.permits here .execute with
  | false => rfl
  | true => simp [bind, Except.bind, h.node?]

end FileSystem

end GuidedShell
