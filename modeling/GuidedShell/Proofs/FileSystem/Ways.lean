import GuidedShell.Proofs.FileSystem.Leads

/-! Ways from a directory: where they end, and in which trees they are the same. -/
namespace GuidedShell

/-- The node ends every path: nothing lies below it, and it leads nowhere. -/
def Node.IsLeaf : Node → Prop
  | .file .. | .device _ => True
  | .directory | .link _ => False

namespace FileSystem

/-- A place stands if it and everything above it are directories. -/
def Stands (fs : FileSystem) (here : Location) : Prop :=
  ∀ above, above <:+ here → fs.node? above = some .directory

theorem node?_nil (fs : FileSystem) : fs.node? [] = some .directory := rfl

theorem stands_nil (fs : FileSystem) : fs.Stands [] := by
  intro above h
  rw [List.suffix_nil.1 h]
  exact fs.node?_nil

theorem node?_put_of_ne (fs : FileSystem) (node : Node) {loc l : Location} (h : l ≠ loc) :
    (fs.put loc node).node? l = fs.node? l := by
  unfold node? put
  split
  · rfl
  · have hfilter (entries : List (Location × Node)) :
        (entries.filter (·.1 != loc)).lookup l = entries.lookup l := by
      induction entries with
      | nil => rfl
      | cons e es ih =>
        obtain ⟨place, value⟩ := e
        by_cases hplace : place = loc
        · have hl : (l == place) = false := by simpa [hplace] using h
          rw [List.filter_cons_of_neg (by simp [hplace]), List.lookup_cons, hl]
          exact ih
        · rw [List.filter_cons_of_pos (by simpa using hplace), List.lookup_cons, List.lookup_cons, ih]
    have hl : (l == loc) = false := by simpa using h
    simp only [List.lookup_cons, hl]
    exact hfilter fs.entries

theorem permits_put_of_ne (fs : FileSystem) (node : Node) {loc l : Location} (h : l ≠ loc)
    (a : Access) : (fs.put loc node).permits l a = fs.permits l a := by
  unfold permits put
  dsimp only
  split
  · rfl
  · simp [h]

/-- What is new is the process's own, and what was there keeps its rights. -/
theorem permits_put (fs : FileSystem) (node : Node) (loc : Location) (a : Access) :
    (fs.put loc node).permits loc a = ((fs.node? loc).isNone || fs.permits loc a) := by
  unfold permits put
  cases hnode : fs.node? loc <;> simp

variable {fs fs' : FileSystem} {purpose : Purpose} {links : Nat} {here l loc : Location}
  {s : FileName} {steps rest : List FileName}

namespace Stands

theorem node? (h : fs.Stands here) : fs.node? here = some .directory := h here (List.suffix_refl _)

theorem isOpen (h : fs.Stands here) : fs.IsOpen here := by
  simp only [IsOpen, h.node?]

theorem tail (h : fs.Stands here) : fs.Stands here.tail := fun above habove =>
  h above (habove.trans (List.tail_suffix here))

theorem cons (h : fs.Stands here) (hnode : fs.node? (s :: here) = some .directory) :
    fs.Stands (s :: here) := by
  intro above habove
  rcases List.suffix_cons_iff.1 habove with rfl | habove
  · exact hnode
  · exact h above habove

theorem origin (h : fs.Stands here) (p : FilePath) : fs.Stands (origin here p) := by
  unfold FileSystem.origin
  split
  · exact fs.stands_nil
  · exact h

end Stands

/-- Neither the place nor anything above it is a link. -/
def Unlinked (fs : FileSystem) (here : Location) : Prop :=
  ∀ above, above <:+ here → ∀ target, fs.node? above ≠ some (.link target)

theorem Stands.unlinked (h : fs.Stands here) : fs.Unlinked here := by
  intro above habove target
  rw [h above habove]
  exact nofun

namespace Unlinked

theorem node? (h : fs.Unlinked here) (target : FilePath) : fs.node? here ≠ some (.link target) :=
  h here (List.suffix_refl _) target

theorem tail (h : fs.Unlinked here) : fs.Unlinked here.tail := fun above habove =>
  h above (habove.trans (List.tail_suffix here))

theorem cons (h : fs.Unlinked here) (hnode : ∀ target, fs.node? (s :: here) ≠ some (.link target)) :
    fs.Unlinked (s :: here) := by
  intro above habove
  rcases List.suffix_cons_iff.1 habove with rfl | habove
  · exact hnode
  · exact h above habove

theorem origin (h : fs.Unlinked here) (p : FilePath) : fs.Unlinked (origin here p) := by
  unfold FileSystem.origin
  split
  · exact fs.stands_nil.unlinked
  · exact h

end Unlinked

theorem not_isOpen_of_isLeaf {node : Node} (hnode : fs.node? l = some node) (h : node.IsLeaf) :
    ¬fs.IsOpen l := by
  cases node with
  | file | device => simp [IsOpen, hnode]
  | directory | link => exact h.elim

theorem leads_entry (hopen : fs.IsSearchable here) (hs : IsEntry s)
    (hleaf : ∀ node, fs.node? (s :: here) = some node → node.IsLeaf) :
    Leads fs purpose links here [s] (s :: here) := by
  cases hnode : fs.node? (s :: here) with
  | none => exact .new hopen hs hnode
  | some node =>
    refine .down hopen hs (by simp [Admits]) hnode ?_ .arrive
    rintro target rfl
    exact hleaf _ hnode

/-- Two trees that differ in one place at most, and there have a leaf or nothing, have the same ways. -/
theorem Leads.transfer (hsame : ∀ l, l ≠ loc → fs.node? l = fs'.node? l)
    (hsearch : ∀ l, l ≠ loc → fs.permits l .execute = fs'.permits l .execute)
    (hleaf : ∀ node, fs.node? loc = some node → node.IsLeaf)
    (hleaf' : ∀ node, fs'.node? loc = some node → node.IsLeaf)
    (h : Leads fs purpose links here steps l) (hstands : fs.Stands here) :
    Leads fs' purpose links here steps l := by
  have hother {here : Location} (hstands : fs.Stands here) : here ≠ loc := by
    rintro rfl
    exact hleaf _ hstands.node?
  have hopen' {here : Location} (hstands : fs.Stands here) : fs'.IsOpen here := by
    simp only [IsOpen, ← hsame here (hother hstands), hstands.node?]
  have hsearch' {here : Location} (hstands : fs.Stands here) (h : fs.IsSearchable here) :
      fs'.IsSearchable here :=
    ⟨hopen' hstands, by rw [← hsearch here (hother hstands), h.2]⟩
  induction h with
  | arrive => exact .arrive
  | @stay _ here _ _ _ _ hs _ ih =>
    refine .stay (hopen' hstands) ?_ (ih hstands)
    unfold Remains
    rwa [← hsearch here (hother hstands)]
  | up hopen _ ih => exact .up (hsearch' hstands hopen) (ih hstands.tail)
  | @down links here s rest l node hopen hs hrest hnode hlink next ih =>
    -- A way that meets the place ends there, so only directories are left to the induction.
    have hend (hl : node.IsLeaf) : Leads fs' purpose links here (s :: rest) l := by
      obtain ⟨rfl, rfl⟩ := next.eq_of_not_isOpen (not_isOpen_of_isLeaf hnode hl)
      refine leads_entry (hsearch' hstands hopen) hs fun node' hnode' => ?_
      by_cases hloc : s :: here = loc
      · exact hleaf' node' (hloc ▸ hnode')
      · rw [← hsame _ hloc, hnode] at hnode'
        exact Option.some.inj hnode' ▸ hl
    cases node with
    | link target => exact absurd rfl (hlink target)
    | file | device => exact hend trivial
    | directory =>
      have hne : s :: here ≠ loc := by
        rintro rfl
        exact hleaf _ hnode
      have hnode' := hnode
      rw [hsame _ hne] at hnode'
      exact .down (hsearch' hstands hopen) hs hrest hnode' hlink (ih (hstands.cons hnode))
  | @follow _ here s _ _ target hopen hs hrest hnode _ ih =>
    have hne : s :: here ≠ loc := by
      rintro rfl
      exact hleaf _ hnode
    rw [hsame _ hne] at hnode
    exact .follow (hsearch' hstands hopen) hs hrest hnode (ih (hstands.origin target))
  | @new _ here s hopen hs hnode =>
    refine leads_entry (hsearch' hstands hopen) hs fun node' hnode' => ?_
    by_cases hloc : s :: here = loc
    · exact hleaf' node' (hloc ▸ hnode')
    · rw [← hsame _ hloc, hnode] at hnode'
      cases hnode'

theorem Leads.look (h : Leads fs .create links here steps l) : Leads fs .look links here steps l := by
  have hadmits (rest : List FileName) : Admits .look rest := by simp [Admits]
  induction h with
  | arrive => exact .arrive
  | stay hopen hs _ ih => exact .stay hopen hs ih
  | up hopen _ ih => exact .up hopen ih
  | down hopen hs _ hnode hlink _ ih => exact .down hopen hs (hadmits _) hnode hlink ih
  | follow hopen hs _ hnode _ ih => exact .follow hopen hs (hadmits _) hnode ih
  | new hopen hs hnode => exact .new hopen hs hnode

/-- A way that ends with a slash leads to a directory. -/
theorem Leads.node?_of_stay (h : Leads fs purpose links here steps l) (hstands : fs.Stands here)
    (hlast : steps.getLast? = some FilePath.stay) : fs.node? l = some .directory := by
  induction h with
  | arrive => cases hlast
  | @stay _ _ _ rest _ _ _ next ih =>
    cases rest with
    | nil =>
      cases next
      exact hstands.node?
    | cons => exact ih hstands (by simpa using hlast)
  | @up _ _ rest _ _ next ih =>
    cases rest with
    | nil => cases hlast
    | cons => exact ih hstands.tail (by simpa using hlast)
  | @down _ _ s rest _ node _ hs _ hnode hlink next ih =>
    cases rest with
    | nil => exact absurd (.inl (Option.some.inj hlast)) hs.moves
    | cons =>
      cases node with
      | directory => exact ih (hstands.cons hnode) (by simpa using hlast)
      | link target => exact absurd rfl (hlink target)
      | file | device =>
        have hnil := (next.eq_of_not_isOpen (not_isOpen_of_isLeaf hnode trivial)).1
        cases hnil
  | @follow _ _ s rest _ target _ hs _ _ _ ih =>
    cases rest with
    | nil => exact absurd (.inl (Option.some.inj hlast)) hs.moves
    | cons => exact ih (hstands.origin target) (by simpa [List.getLast?_append] using hlast)
  | new _ hs => exact absurd (.inl (Option.some.inj hlast)) hs.moves

/-- A way through at most so many links is one through at most as many or more. -/
theorem Leads.mono (h : Leads fs purpose links here steps l) {more : Nat} (hle : links ≤ more) :
    Leads fs purpose more here steps l := by
  induction h generalizing more with
  | arrive => exact .arrive
  | stay hopen hs _ ih => exact .stay hopen hs (ih hle)
  | up hopen _ ih => exact .up hopen (ih hle)
  | down hopen hs hrest hnode hlink _ ih => exact .down hopen hs hrest hnode hlink (ih hle)
  | follow hopen hs hrest hnode _ ih =>
    obtain ⟨more, rfl⟩ := Nat.exists_eq_add_of_le' (Nat.le_trans (Nat.le_add_left 1 _) hle)
    exact .follow hopen hs hrest hnode (ih (Nat.le_of_succ_le_succ hle))
  | new hopen hs hnode => exact .new hopen hs hnode

/-- How many links may be followed decides whether a way is found, and not where it leads. -/
theorem Leads.unique {links' : Nat} {l' : Location} (h : Leads fs purpose links here steps l)
    (h' : Leads fs purpose links' here steps l') : l = l' := by
  have hwalk := walk_of_leads (h.mono (Nat.le_max_left links links'))
  have hwalk' := walk_of_leads (h'.mono (Nat.le_max_right links links'))
  exact Except.ok.inj (hwalk.symm.trans hwalk')

/-- A way that begins at a place with no links above it ends at one. -/
theorem Leads.unlinked (h : Leads fs purpose links here steps l) (hlinks : fs.Unlinked here) :
    fs.Unlinked l := by
  induction h with
  | arrive => exact hlinks
  | stay _ _ _ ih => exact ih hlinks
  | up _ _ ih => exact ih hlinks.tail
  | down _ _ _ hnode hlink _ ih =>
    refine ih (hlinks.cons fun target heq => ?_)
    rw [hnode] at heq
    exact hlink target (Option.some.inj heq)
  | @follow _ _ _ _ _ target _ _ _ _ _ ih => exact ih (hlinks.origin target)
  | new _ _ hnode =>
    refine hlinks.cons fun target heq => ?_
    rw [hnode] at heq
    cases heq

theorem Leads.create (h : Leads fs .look links here steps l) (hstands : fs.Stands here)
    (hl : fs.node? l ≠ some .directory) : Leads fs .create links here steps l := by
  induction h with
  | arrive => exact .arrive
  | stay hopen hs _ ih => exact .stay hopen hs (ih hstands hl)
  | up hopen _ ih => exact .up hopen (ih hstands.tail hl)
  | @down _ here s rest _ node hopen hs _ hnode hlink next ih =>
    cases node with
    | link target => exact absurd rfl (hlink target)
    | directory =>
      have hrest : Admits .create rest := by
        rintro ⟨-, rfl⟩
        exact hl (next.node?_of_stay (hstands.cons hnode) rfl)
      exact .down hopen hs hrest hnode hlink (ih (hstands.cons hnode) hl)
    | file | device =>
      obtain ⟨rfl, rfl⟩ := next.eq_of_not_isOpen (not_isOpen_of_isLeaf hnode trivial)
      exact .down hopen hs (by simp [Admits]) hnode hlink .arrive
  | @follow _ here s rest _ target hopen hs _ hnode next ih =>
    have hrest : Admits .create rest := by
      rintro ⟨-, rfl⟩
      exact hl (next.node?_of_stay (hstands.origin target) (by simp))
    exact .follow hopen hs hrest hnode (ih (hstands.origin target) hl)
  | new hopen hs hnode => exact .new hopen hs hnode

end FileSystem

end GuidedShell
