import GuidedShell.Exec.Launch
import GuidedShell.Proofs.FileSystem.Canonical

/-! Which file is started for a name: the first along the search path that is not passed over. -/
namespace GuidedShell.Exec

/-- For this reason a file is passed over when a program is looked for along a search path. -/
inductive Skips : Fault → Prop
  | denied : Skips .permissionDenied
  | missing : Skips .notFound
  | blocked : Skips .notDirectory

variable {fs : FileSystem} {dir : Location} {vars : List (Bytes × Bytes)}
  {isScript : Bytes → Bool} {name p d : FilePath} {words : List Bytes} {fault : Fault}
  {found : Location × List Bytes} {front back : List FilePath} {denied : Bool}

theorem load_of_image_error {depth room : Nat} (h : image fs dir p = .error fault) :
    load fs dir vars room depth p words = .error fault := by
  unfold load
  rw [h]
  rfl

/-- A file that cannot be looked into is not started, for the same reason. -/
theorem start_of_image_error (h : image fs dir p = .error fault) :
    start fs dir vars isScript p words = .error fault := by
  unfold start
  rw [load_of_image_error h]
  dsimp only
  split
  · rename_i heq
    cases heq
    rw [h]
    rfl
  · rfl

/-- What does not exist is not started. -/
theorem exist_of_start (h : start fs dir vars isScript p words = .ok found) : fs.exist dir p := by
  cases hfind : fs.find dir p with
  | error fault =>
    have himage : image fs dir p = .error fault := by
      unfold image
      rw [hfind]
      rfl
    rw [start_of_image_error himage] at h
    cases h
  | ok loc =>
    obtain ⟨hcheck, hreach, hsome⟩ := FileSystem.find_eq_ok_iff.1 hfind
    obtain ⟨node, hnode⟩ := Option.isSome_iff_exists.1 hsome
    have hstat := FileSystem.stat_eq_ok_iff.2 ⟨hcheck, loc, hreach, hnode⟩
    unfold FileSystem.exist
    rw [hstat]
    rfl

theorem start_directory {loc : Location} (hfind : fs.find dir p = .ok loc)
    (hnode : fs.node? loc = some .directory) :
    start fs dir vars isScript p words = .error .permissionDenied := by
  refine start_of_image_error ?_
  unfold image
  rw [hfind]
  simp only [bind, Except.bind, hnode]

/-- The working directory itself is not started. -/
theorem start_here (h : fs.Stands dir) :
    start fs dir vars isScript FilePath.here words = .error .permissionDenied := by
  have hfind := h.find_here
  split at hfind
  · exact start_directory hfind h.node?
  · refine start_of_image_error ?_
    unfold image
    rw [hfind]
    rfl

/-- A search that succeeds has started the file that a directory has, or passed over it, or come to
its end before. -/
theorem startAlong_eq_ok
    (h : startAlong fs dir vars isScript name words denied (front ++ d :: back) = .ok found) :
    start fs dir vars isScript (FilePath.join d name) words = .ok found ∨
      (∃ fault, Skips fault ∧
        start fs dir vars isScript (FilePath.join d name) words = .error fault) ∨
      ∃ earlier ∈ front,
        start fs dir vars isScript (FilePath.join earlier name) words = .ok found := by
  induction front generalizing denied with
  | nil =>
    rw [List.nil_append, startAlong] at h
    split at h
    · rename_i hstart
      exact .inl (hstart.trans h)
    · exact .inr (.inl ⟨_, .denied, ‹_›⟩)
    · exact .inr (.inl ⟨_, .missing, ‹_›⟩)
    · exact .inr (.inl ⟨_, .blocked, ‹_›⟩)
    · cases h
  | cons first front ih =>
    rw [List.cons_append, startAlong] at h
    -- If the first directory did not decide it, the others did.
    have hrest : (∃ denied,
        startAlong fs dir vars isScript name words denied (front ++ d :: back) = .ok found) ∨
        start fs dir vars isScript (FilePath.join first name) words = .ok found := by
      split at h
      · rename_i hstart
        exact .inr (hstart.trans h)
      · exact .inl ⟨_, h⟩
      · exact .inl ⟨_, h⟩
      · exact .inl ⟨_, h⟩
      · cases h
    rcases hrest with ⟨denied, hlater⟩ | hstart
    · rcases ih hlater with hstart | hskips | ⟨earlier, hmem, hstart⟩
      · exact .inl hstart
      · exact .inr (.inl hskips)
      · exact .inr (.inr ⟨earlier, List.mem_cons_of_mem _ hmem, hstart⟩)
    · exact .inr (.inr ⟨first, List.mem_cons_self, hstart⟩)

/-- The variables as a program is given them. -/
def assignments (vars : Vars) : List (Bytes × Bytes) :=
  vars.map fun v => (Text.bytes v.1, Text.bytes v.2)

/-- Start a program as the finder finds it. -/
def Finder.start (f : Finder) (fs : FileSystem) (dir : Location) (vars : List (Bytes × Bytes))
    (p : FilePath) (words : List Bytes) : Except Fault (Location × List Bytes) :=
  match f with
  | .direct => Exec.start fs dir vars (fun _ => false) p words
  | .along search lenient =>
    startAlong fs dir vars (fun _ => lenient) p words false (FilePath.searchList search)

/-- What a launch from a directory is made of. -/
theorem prepare_eq_ok {w : World} {finder : Finder} {args : List Bytes} {environment : Vars}
    {l : Launch} (h : prepare w finder p args environment (some name) = .ok l) :
    w.files.enter w.here name = .ok l.directory ∧
      finder.start w.files l.directory (assignments environment) p (p :: args) =
        .ok (l.program, l.words) := by
  unfold prepare at h
  dsimp only at h
  split at h
  · cases h
  · cases henter : w.files.enter w.here name with
    | error fault => simp [henter, bind, Except.bind] at h
    | ok dir =>
      simp only [henter, bind, Except.bind] at h
      cases finder with
      | direct =>
        dsimp only at h ⊢
        split at h
        · cases h
        · rename_i found hstart
          cases h
          exact ⟨rfl, hstart⟩
      | along search lenient =>
        dsimp only at h ⊢
        split at h
        · cases h
        · rename_i found hstart
          cases h
          exact ⟨rfl, hstart⟩

end GuidedShell.Exec
