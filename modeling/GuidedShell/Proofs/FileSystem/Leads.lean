import GuidedShell.FileSystem.Access

/-! Where paths lead, as a relation. A walk that succeeds is a derivation of it, with one rule for
each kind of step, and what is shown about walks is shown rule by rule. -/
namespace GuidedShell.FileSystem

/-- Steps can be taken from here: it is no file. -/
def IsOpen (fs : FileSystem) (here : Location) : Prop :=
  match fs.node? here with
  | some (.file ..) | some (.device _) => False
  | _ => True

/-- Names can be looked for here. -/
def IsSearchable (fs : FileSystem) (here : Location) : Prop :=
  fs.IsOpen here ∧ fs.permits here .execute = true

/-- The step leads nowhere else. Only the dot is looked for. -/
def Remains (fs : FileSystem) (here : Location) (s : FileName) : Prop :=
  s = FilePath.stay ∨ s = FilePath.here ∧ fs.permits here .execute = true

/-- The step is the name of an entry. -/
structure IsEntry (s : FileName) : Prop where
  moves : ¬(s = FilePath.stay ∨ s = FilePath.here)
  down : s ≠ FilePath.parent
  short : s.length ≤ maxName

/-- What still is to be walked after an entry may follow it. -/
def Admits (purpose : Purpose) (rest : List FileName) : Prop :=
  ¬(purpose = .create ∧ rest = [FilePath.stay])

/-- The steps lead from one place to another, through at most `links` links. -/
inductive Leads (fs : FileSystem) (purpose : Purpose) :
    (links : Nat) → Location → List FileName → Location → Prop
  | arrive {links here} : Leads fs purpose links here [] here
  | stay {links here s rest l} (hopen : fs.IsOpen here) (hs : fs.Remains here s)
    (next : Leads fs purpose links here rest l) : Leads fs purpose links here (s :: rest) l
  | up {links here rest l} (hopen : fs.IsSearchable here)
    (next : Leads fs purpose links here.tail rest l) :
    Leads fs purpose links here (FilePath.parent :: rest) l
  | down {links here s rest l node} (hopen : fs.IsSearchable here) (hs : IsEntry s)
    (hrest : Admits purpose rest) (hnode : fs.node? (s :: here) = some node)
    (hlink : ∀ target, node ≠ .link target)
    (next : Leads fs purpose links (s :: here) rest l) :
    Leads fs purpose links here (s :: rest) l
  | follow {links here s rest l target} (hopen : fs.IsSearchable here) (hs : IsEntry s)
    (hrest : Admits purpose rest) (hnode : fs.node? (s :: here) = some (.link target))
    (next : Leads fs purpose links (origin here target) (FilePath.steps target ++ rest) l) :
    Leads fs purpose (links + 1) here (s :: rest) l
  | new {links here s} (hopen : fs.IsSearchable here) (hs : IsEntry s)
    (hnode : fs.node? (s :: here) = none) : Leads fs purpose links here [s] (s :: here)

/-- How a walk goes on where it has met a link. -/
def follow (fs : FileSystem) (purpose : Purpose) :
    Nat → Location → List FileName → Except Fault Location
  | 0 => fun _ _ => .error .tooManyLinks
  | links + 1 => fs.walk purpose links

theorem walk_eq (fs : FileSystem) (purpose : Purpose) (links : Nat) :
    fs.walk purpose links = fs.walkWith purpose (fs.follow purpose links) := by
  cases links <;> rfl

variable {fs : FileSystem} {purpose : Purpose} {links : Nat} {here l : Location}
  {s : FileName} {rest steps : List FileName}

/-- A step can only be taken where it is open, and then it is the one of its kind. -/
theorem walkWith_cons {enter : Location → List FileName → Except Fault Location}
    (hopen : fs.IsOpen here) :
    fs.walkWith purpose enter here (s :: rest) =
      if s = FilePath.stay then fs.walkWith purpose enter here rest
      else if !fs.permits here .execute then .error .permissionDenied
      else if s = FilePath.here then fs.walkWith purpose enter here rest
      else if s = FilePath.parent then fs.walkWith purpose enter here.tail rest
      else if purpose = .create ∧ rest = [FilePath.stay] then .error .isDirectory
      else if maxName < s.length then .error .nameTooLong
      else match fs.node? (s :: here) with
        | some (.link target) => enter (origin here target) (FilePath.steps target ++ rest)
        | some _ => fs.walkWith purpose enter (s :: here) rest
        | none => if rest.isEmpty then .ok (s :: here) else .error .notFound := by
  unfold IsOpen at hopen
  rw [walkWith]
  cases hnode : fs.node? here with
  | none => rfl
  | some node =>
    rw [hnode] at hopen
    cases node with
    | file | device => exact hopen.elim
    | directory | link => rfl

theorem walkWith_remains {enter : Location → List FileName → Except Fault Location}
    (hopen : fs.IsOpen here) (hs : fs.Remains here s) :
    fs.walkWith purpose enter here (s :: rest) = fs.walkWith purpose enter here rest := by
  rw [walkWith_cons hopen]
  rcases hs with rfl | ⟨rfl, hsearch⟩
  · rw [if_pos rfl]
  · rw [if_neg (by decide), if_neg (by simp [hsearch]), if_pos rfl]

theorem walkWith_entry {enter : Location → List FileName → Except Fault Location}
    (hopen : fs.IsSearchable here) (hs : IsEntry s) (hrest : Admits purpose rest) :
    fs.walkWith purpose enter here (s :: rest) =
      match fs.node? (s :: here) with
      | some (.link target) => enter (origin here target) (FilePath.steps target ++ rest)
      | some _ => fs.walkWith purpose enter (s :: here) rest
      | none => if rest.isEmpty then .ok (s :: here) else .error .notFound := by
  obtain ⟨hstay, hhere⟩ := not_or.1 hs.moves
  rw [walkWith_cons hopen.1, if_neg hstay, if_neg (by simp [hopen.2]), if_neg hhere, if_neg hs.down,
    if_neg hrest, if_neg (Nat.not_lt.2 hs.short)]

theorem isOpen_of_walkWith {enter : Location → List FileName → Except Fault Location}
    (h : fs.walkWith purpose enter here (s :: rest) = .ok l) : fs.IsOpen here := by
  unfold IsOpen
  rw [walkWith] at h
  split
  · rename_i hnode
    simp [hnode] at h
  · rename_i hnode
    simp [hnode] at h
  · trivial

theorem leads_of_walkWith {enter : Location → List FileName → Except Fault Location}
    (henter : ∀ here steps, enter here steps = .ok l →
      ∃ n, links = n + 1 ∧ Leads fs purpose n here steps l)
    (h : fs.walkWith purpose enter here steps = .ok l) : Leads fs purpose links here steps l := by
  -- Where a link is met the walk does not go on with `rest`, and `henter` takes the place of `ih`.
  induction steps generalizing here with
  | nil =>
    cases h
    exact .arrive
  | cons s rest ih =>
    have hopen := isOpen_of_walkWith h
    by_cases hremains : fs.Remains here s
    · rw [walkWith_remains hopen hremains] at h
      exact .stay hopen hremains (ih h)
    · obtain ⟨hstay, hdot⟩ := not_or.1 hremains
      rw [walkWith_cons hopen, if_neg hstay] at h
      split at h
      · cases h
      · rename_i hpermits
        have hsearch : fs.permits here .execute = true := by simpa using hpermits
        have hhere : s ≠ FilePath.here := fun heq => hdot ⟨heq, hsearch⟩
        rw [if_neg hhere] at h
        split at h
        · rename_i hs
          subst hs
          exact .up ⟨hopen, hsearch⟩ (ih h)
        · rename_i hdown
          split at h
          · cases h
          · rename_i hrest
            split at h
            · cases h
            · rename_i hlong
              have hs : IsEntry s := ⟨not_or.2 ⟨hstay, hhere⟩, hdown, Nat.le_of_not_lt hlong⟩
              split at h
              · rename_i target hnode
                obtain ⟨n, rfl, hn⟩ := henter _ _ h
                exact .follow ⟨hopen, hsearch⟩ hs hrest hnode hn
              · rename_i node hlink hnode
                refine .down ⟨hopen, hsearch⟩ hs hrest hnode (fun target heq => ?_) (ih h)
                exact hlink target heq
              · rename_i hnode
                split at h
                · rename_i hempty
                  cases h
                  rw [List.isEmpty_iff.1 hempty]
                  exact .new ⟨hopen, hsearch⟩ hs hnode
                · cases h

theorem walk_of_leads (h : Leads fs purpose links here steps l) :
    fs.walk purpose links here steps = .ok l := by
  induction h with
  | arrive =>
    rw [walk_eq]
    rfl
  | stay hopen hs _ ih =>
    rw [walk_eq] at ih ⊢
    rw [walkWith_remains hopen hs, ih]
  | up hopen _ ih =>
    rw [walk_eq] at ih ⊢
    rw [walkWith_cons hopen.1, if_neg (by decide), if_neg (by simp [hopen.2]), if_neg (by decide),
      if_pos rfl, ih]
  | @down _ _ _ _ _ node hopen hs hrest hnode hlink _ ih =>
    rw [walk_eq] at ih ⊢
    rw [walkWith_entry hopen hs hrest, hnode]
    cases node with
    | link target => exact absurd rfl (hlink target)
    | directory | file | device => exact ih
  | follow hopen hs hrest hnode _ ih =>
    rw [walk_eq, walkWith_entry hopen hs hrest, hnode]
    exact ih
  | new hopen hs hnode =>
    rw [walk_eq, walkWith_entry hopen hs (by simp [Admits]), hnode]
    rfl

/-- Walking computes where steps lead. -/
theorem walk_eq_ok_iff :
    fs.walk purpose links here steps = .ok l ↔ Leads fs purpose links here steps l := by
  refine ⟨fun h => ?_, walk_of_leads⟩
  induction links generalizing here steps with
  | zero =>
    rw [walk_eq] at h
    exact leads_of_walkWith (fun _ _ h => by cases h) h
  | succ n ih =>
    rw [walk_eq] at h
    exact leads_of_walkWith (fun _ _ h => ⟨n, rfl, ih h⟩) h

theorem Leads.eq_of_not_isOpen (h : Leads fs purpose links here steps l)
    (hopen : ¬fs.IsOpen here) : steps = [] ∧ l = here := by
  cases h with
  | arrive => exact ⟨rfl, rfl⟩
  | stay h => exact absurd h hopen
  | up h | down h | follow h | new h => exact absurd h.1 hopen

end GuidedShell.FileSystem
