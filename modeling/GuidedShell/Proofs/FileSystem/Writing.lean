import GuidedShell.Proofs.FileSystem.Ways

/-! What can be read after a write, from the directory of the write and from others. -/
namespace GuidedShell.FileSystem

variable {fs fs' : FileSystem} {here there l loc : Location} {p : FilePath} {content : Bytes}
  {node : Node}

theorem zero_not_mem_of_checkPath {u : Unit} (h : checkPath p = .ok u) : 0 ∉ p := by
  unfold checkPath at h
  split at h
  · cases h
  · rename_i hzero
    simpa using hzero

theorem reach_eq_ok_iff {purpose : Purpose} : fs.reach purpose here p = .ok l ↔
    p ≠ [] ∧ Leads fs purpose maxLinks (origin here p) (FilePath.steps p) l := by
  unfold reach
  split
  · rename_i h
    simp [List.isEmpty_iff.1 h]
  · rename_i h
    have hne : p ≠ [] := by simpa using h
    rw [walk_eq_ok_iff]
    simp [hne]

/-- A file can be written to the place, where one is or where there is nothing. -/
structure Takes (fs : FileSystem) (loc : Location) : Prop where
  directory : fs.node? loc ≠ some .directory
  link : ∀ t, fs.node? loc ≠ some (.link t)
  permitted : fs.node? loc ≠ none → fs.permits loc .write = true
  room : fs.node? loc = none →
    fs.node? loc.tail = some .directory ∧ fs.permits loc.tail .write = true

theorem target_eq_ok_iff : fs.target here p = .ok loc ↔
    checkPath p = .ok () ∧ fs.reach .create here p = .ok loc ∧ fs.Takes loc := by
  unfold target
  cases hcheck : checkPath p with
  | error fault => simp [bind, Except.bind]
  | ok =>
    cases hreach : fs.reach .create here p with
    | error fault => simp [bind, Except.bind]
    | ok place =>
      simp only [bind, Except.bind, true_and, Except.ok.injEq]
      constructor
      · intro h
        split at h
        · cases h
        · cases h
        · rename_i node hdirectory hlink hnode
          split at h
          · rename_i hpermits
            cases h
            refine ⟨rfl, fun heq => ?_, fun t heq => ?_, fun _ => hpermits, fun hnone => ?_⟩
            · exact hdirectory (Option.some.inj (hnode.symm.trans heq))
            · exact hlink t (Option.some.inj (hnode.symm.trans heq))
            · rw [hnode] at hnone
              cases hnone
          · cases h
        · rename_i hnode
          split at h
          · cases h
          · rename_i habove
            split at h
            · rename_i hpermits
              cases h
              refine ⟨rfl, ?_, ?_, fun hne => absurd hnode hne, fun _ => ⟨?_, hpermits⟩⟩
              · simp [hnode]
              · simp [hnode]
              · simpa using habove
            · cases h
      · rintro ⟨rfl, htakes⟩
        cases hnode : fs.node? place with
        | none =>
          obtain ⟨habove, hpermits⟩ := htakes.room hnode
          simp [habove, hpermits]
        | some node =>
          have hpermits := htakes.permitted (by simp [hnode])
          cases node with
          | directory => exact absurd hnode htakes.directory
          | link t => exact absurd hnode (htakes.link t)
          | file | device => simp [hpermits]

theorem canonical_eq_ok_iff : fs.canonical here p = .ok l ↔
    0 ∉ p ∧ fs.reach .look here p = .ok l ∧ (fs.node? l).isSome := by
  unfold canonical
  split
  · rename_i hzero
    have hmem : 0 ∈ p := by simpa using hzero
    simp [hmem]
  · rename_i hzero
    have hnone : 0 ∉ p := by simpa using hzero
    cases hreach : fs.reach .look here p with
    | error fault => simp [bind, Except.bind]
    | ok place =>
      simp only [bind, Except.bind, hnone, not_false_eq_true, true_and, Except.ok.injEq]
      constructor
      · intro h
        split at h
        · cases h
          exact ⟨rfl, ‹_›⟩
        · cases h
      · rintro ⟨rfl, hsome⟩
        rw [if_pos hsome]

theorem find_eq_ok_iff : fs.find here p = .ok l ↔
    checkPath p = .ok () ∧ fs.reach .look here p = .ok l ∧ (fs.node? l).isSome := by
  unfold find
  cases hcheck : checkPath p with
  | error fault => simp [bind, Except.bind]
  | ok =>
    have hzero := zero_not_mem_of_checkPath hcheck
    simp only [bind, Except.bind, canonical_eq_ok_iff, hzero, not_false_eq_true, true_and]

/-- A path that is not found leads nowhere, or to nothing. -/
theorem node?_of_find_error {fault : Fault} (h : fs.find here p = .error fault)
    (hcheck : checkPath p = .ok ()) (hreach : fs.reach .look here p = .ok l) :
    fs.node? l = none := by
  cases hnode : fs.node? l with
  | none => rfl
  | some node =>
    have hfound := find_eq_ok_iff.2 ⟨hcheck, hreach, by simp [hnode]⟩
    rw [h] at hfound
    cases hfound

theorem stat_eq_ok_iff : fs.stat here p = .ok node ↔
    checkPath p = .ok () ∧ ∃ l, fs.reach .look here p = .ok l ∧ fs.node? l = some node := by
  unfold stat
  cases hfind : fs.find here p with
  | error fault =>
    simp only [bind, Except.bind]
    constructor
    · exact nofun
    · rintro ⟨hcheck, l, hreach, hnode⟩
      rw [node?_of_find_error hfind hcheck hreach] at hnode
      cases hnode
  | ok place =>
    obtain ⟨hcheck, hreach, hsome⟩ := find_eq_ok_iff.1 hfind
    obtain ⟨found, hfound⟩ := Option.isSome_iff_exists.1 hsome
    simp [bind, Except.bind, hcheck, hreach, hfound]

theorem allows_of_find (h : fs.find here p = .ok l) (a : Access) :
    fs.allows here p a = fs.permits l a := by
  simp [allows, h, Except.toOption]

theorem exists_find_of_allows {a : Access} (h : fs.allows here p a = true) :
    ∃ l, fs.find here p = .ok l ∧ fs.permits l a = true := by
  unfold allows at h
  cases hfind : fs.find here p with
  | error fault =>
    rw [hfind] at h
    cases h
  | ok l => exact ⟨l, rfl, by simpa [hfind, Except.toOption] using h⟩

theorem stat_of_find (h : fs.find here p = .ok l) (hnode : fs.node? l = some node) :
    fs.stat here p = .ok node := by
  simp only [stat, h, hnode, bind, Except.bind]

theorem exists_find_of_stat (h : fs.stat here p = .ok node) :
    ∃ l, fs.find here p = .ok l ∧ fs.node? l = some node := by
  obtain ⟨hcheck, l, hreach, hnode⟩ := stat_eq_ok_iff.1 h
  exact ⟨l, find_eq_ok_iff.2 ⟨hcheck, hreach, by simp [hnode]⟩, hnode⟩

/-- What is read is the content of a file, and nothing from the device that has nothing. -/
theorem read_eq_ok_iff : fs.read here p = .ok content ↔
    fs.allows here p .read = true ∧
      ((∃ mode, fs.stat here p = .ok (.file mode content)) ∨
        content = [] ∧ fs.stat here p = .ok (.device .null)) := by
  unfold read
  cases fs.stat here p with
  | error fault => simp [bind, Except.bind]
  | ok node =>
    cases fs.allows here p .read with
    | false => simp [bind, Except.bind]
    | true =>
      cases node with
      | directory | link | file => simp [bind, Except.bind]
      | device d => cases d <;> simp [bind, Except.bind, eq_comm]

theorem read_ne_notFound (h : fs.stat here p = .ok node) : fs.read here p ≠ .error .notFound := by
  unfold read
  rw [h]
  cases fs.allows here p .read with
  | false => simp [bind, Except.bind]
  | true =>
    cases node with
    | directory | link | file => simp [bind, Except.bind]
    | device d => cases d <;> simp [bind, Except.bind]

theorem read_congr (hstat : fs.stat here p = fs'.stat there p)
    (hread : fs.allows here p .read = fs'.allows there p .read) :
    fs.read here p = fs'.read there p := by
  unfold read
  rw [hstat, hread]

theorem write_congr (h : fs.target here p = fs.target there p) (content : Bytes) :
    fs.write here p content = fs.write there p content := by
  unfold write
  rw [h]

theorem target_of_isAbsolute (h : FilePath.isAbsolute p) (here there : Location) :
    fs.target here p = fs.target there p := by
  unfold target reach origin
  rw [if_pos h, if_pos h]

theorem find_of_isAbsolute (h : FilePath.isAbsolute p) (here there : Location) :
    fs.find here p = fs.find there p := by
  unfold find canonical reach origin
  rw [if_pos h, if_pos h]

theorem stat_of_isAbsolute (h : FilePath.isAbsolute p) (here there : Location) :
    fs.stat here p = fs.stat there p := by
  unfold stat
  rw [find_of_isAbsolute h here there]

theorem allows_of_isAbsolute (h : FilePath.isAbsolute p) (here there : Location) (a : Access) :
    fs.allows here p a = fs.allows there p a := by
  unfold allows
  rw [find_of_isAbsolute h here there]

/-- The path names the same in both trees, and the same may be done with it. -/
structure SameAt (fs : FileSystem) (here : Location) (fs' : FileSystem) (there : Location)
    (p : FilePath) : Prop where
  stat : fs.stat here p = fs'.stat there p
  allows : ∀ a, fs.allows here p a = fs'.allows there p a

namespace SameAt

theorem refl (fs : FileSystem) (here : Location) (p : FilePath) : fs.SameAt here fs here p :=
  ⟨rfl, fun _ => rfl⟩

theorem trans {fs'' : FileSystem} {yonder : Location} (h : fs.SameAt here fs' there p)
    (h' : fs'.SameAt there fs'' yonder p) : fs.SameAt here fs'' yonder p :=
  ⟨h.stat.trans h'.stat, fun a => (h.allows a).trans (h'.allows a)⟩

theorem symm (h : fs.SameAt here fs' there p) : fs'.SameAt there fs here p :=
  ⟨h.stat.symm, fun a => (h.allows a).symm⟩

theorem of_isAbsolute (h : FilePath.isAbsolute p) (here there : Location) :
    fs.SameAt here fs there p :=
  ⟨stat_of_isAbsolute h here there, allows_of_isAbsolute h here there⟩

theorem read (h : fs.SameAt here fs' there p) : fs.read here p = fs'.read there p :=
  read_congr h.stat (h.allows .read)

end SameAt

/-- What can come of a write: the path has no place for a file, or the place takes the content, as a
file or as a device does, or the device there does not. -/
inductive Writes (fs : FileSystem) (here : Location) (p : FilePath) (content : Bytes) :
    Except Fault FileSystem → Prop
  | unplaced {fault : Fault} (target : fs.target here p = .error fault) :
    Writes fs here p content (.error fault)
  | created {loc : Location} (target : fs.target here p = .ok loc) (nothing : fs.node? loc = none) :
    Writes fs here p content (.ok (fs.put loc (.file newMode content)))
  | replaced {loc : Location} {mode : Nat} {old : Bytes} (target : fs.target here p = .ok loc)
    (regular : fs.node? loc = some (.file mode old)) :
    Writes fs here p content (.ok (fs.put loc (.file mode content)))
  | swallowed {loc : Location} {d : Device} (target : fs.target here p = .ok loc)
    (device : fs.node? loc = some (.device d)) (terminal : d ≠ .terminal)
    (full : d = .full → content = []) : Writes fs here p content (.ok fs)
  | terminal {loc : Location} (target : fs.target here p = .ok loc)
    (device : fs.node? loc = some (.device .terminal)) :
    Writes fs here p content (.error .noDevice)
  | full {loc : Location} (target : fs.target here p = .ok loc)
    (device : fs.node? loc = some (.device .full)) (something : content ≠ []) :
    Writes fs here p content (.error .noSpace)

theorem writes (fs : FileSystem) (here : Location) (p : FilePath) (content : Bytes) :
    fs.Writes here p content (fs.write here p content) := by
  unfold write
  cases htarget : fs.target here p with
  | error fault => exact .unplaced htarget
  | ok loc =>
    have htakes := (target_eq_ok_iff.1 htarget).2.2
    simp only [bind, Except.bind]
    cases hnode : fs.node? loc with
    | none => exact .created htarget hnode
    | some node =>
      cases node with
      | directory => exact absurd hnode htakes.directory
      | link t => exact absurd hnode (htakes.link t)
      | file mode old => exact .replaced htarget hnode
      | device d =>
        cases d with
        | null | zero => exact .swallowed htarget hnode nofun nofun
        | terminal => exact .terminal htarget hnode
        | full =>
          cases content with
          | nil => exact .swallowed htarget hnode nofun fun _ => rfl
          | cons b bs => exact .full htarget hnode (List.cons_ne_nil b bs)

/-- A write that succeeds puts a file into its place, unless a device stands there. -/
theorem write_eq_ok (h : fs.write here p content = .ok fs') :
    ∃ loc, fs.target here p = .ok loc ∧
      ((∃ d, d ≠ .terminal ∧ fs.node? loc = some (.device d) ∧ fs' = fs) ∨
        (∀ d, fs.node? loc ≠ some (.device d)) ∧ ∃ mode, fs' = fs.put loc (.file mode content)) := by
  have hwrites := fs.writes here p content
  rw [h] at hwrites
  cases hwrites with
  | @created loc target nothing => exact ⟨loc, target, .inr ⟨by simp [nothing], newMode, rfl⟩⟩
  | @replaced loc mode old target regular =>
    exact ⟨loc, target, .inr ⟨by simp [regular], mode, rfl⟩⟩
  | @swallowed loc d target device terminal => exact ⟨loc, target, .inl ⟨d, terminal, device, rfl⟩⟩

theorem write_of_file (htarget : fs.target here p = .ok loc) {mode : Nat} {old : Bytes}
    (hnode : fs.node? loc = some (.file mode old)) (content : Bytes) :
    fs.write here p content = .ok (fs.put loc (.file mode content)) := by
  simp only [write, htarget, hnode, bind, Except.bind]

/-- The tree after an attempt to write. One that fails changes nothing. -/
def afterWrite (fs : FileSystem) (here : Location) (p : FilePath) (content : Bytes) : FileSystem :=
  match fs.write here p content with
  | .ok fs' => fs'
  | .error _ => fs

theorem afterWrite_of_ok (h : fs.write here p content = .ok fs') :
    fs.afterWrite here p content = fs' := by
  simp only [afterWrite, h]

theorem afterWrite_of_error {fault : Fault} (h : fs.write here p content = .error fault) :
    fs.afterWrite here p content = fs := by
  simp only [afterWrite, h]

theorem afterWrite_congr (h : fs.target here p = fs.target there p) (content : Bytes) :
    fs.afterWrite here p content = fs.afterWrite there p content := by
  unfold afterWrite
  rw [write_congr h]

theorem isLeaf_of_target (h : fs.target here p = .ok loc) :
    ∀ node, fs.node? loc = some node → node.IsLeaf := by
  intro node hnode
  have htakes := (target_eq_ok_iff.1 h).2.2
  cases node with
  | file | device => trivial
  | directory => exact htakes.directory hnode
  | link t => exact htakes.link t hnode

theorem ne_nil_of_target (h : fs.target here p = .ok loc) : loc ≠ [] := by
  rintro rfl
  exact (target_eq_ok_iff.1 h).2.2.directory fs.node?_nil

theorem isLeaf_of_put {mode : Nat} (hroot : loc ≠ []) :
    ∀ node, (fs.put loc (.file mode content)).node? loc = some node → node.IsLeaf := by
  intro node hnode
  rw [fs.node?_put _ hroot] at hnode
  cases hnode
  trivial

/-- What is written stands where it was written, for every path that leads there. -/
theorem find_put_of_target (hstands : fs.Stands (origin here p)) (h : fs.target here p = .ok loc)
    (mode : Nat) (content : Bytes) :
    (fs.put loc (.file mode content)).find here p = .ok loc := by
  obtain ⟨hcheck, hreach, -⟩ := target_eq_ok_iff.1 h
  obtain ⟨hne, hleads⟩ := reach_eq_ok_iff.1 hreach
  have hroot := ne_nil_of_target h
  have hway : Leads (fs.put loc (.file mode content)) .look maxLinks (origin here p)
      (FilePath.steps p) loc :=
    hleads.look.transfer (fun l hl => (fs.node?_put_of_ne _ hl).symm)
      (fun l hl => (fs.permits_put_of_ne _ hl .execute).symm) (isLeaf_of_target h)
      (isLeaf_of_put hroot) hstands
  refine find_eq_ok_iff.2 ⟨hcheck, reach_eq_ok_iff.2 ⟨hne, hway⟩, ?_⟩
  rw [fs.node?_put _ hroot]
  rfl

theorem stat_put_of_target (hstands : fs.Stands (origin here p)) (h : fs.target here p = .ok loc)
    (mode : Nat) (content : Bytes) :
    (fs.put loc (.file mode content)).stat here p = .ok (.file mode content) :=
  stat_of_find (find_put_of_target hstands h mode content) (fs.node?_put _ (ne_nil_of_target h))

/-- A way to a place where files can be written makes it the target from here, too. -/
theorem target_of_reach (hstands : fs.Stands (origin here p))
    (htarget : fs.target there p = .ok loc) (hreach : fs.reach .look here p = .ok loc) :
    fs.target here p = fs.target there p := by
  obtain ⟨hcheck, -, htakes⟩ := target_eq_ok_iff.1 htarget
  obtain ⟨hp, hleads⟩ := reach_eq_ok_iff.1 hreach
  have hcreate := hleads.create hstands htakes.directory
  have hhere : fs.target here p = .ok loc :=
    target_eq_ok_iff.2 ⟨hcheck, reach_eq_ok_iff.2 ⟨hp, hcreate⟩, htakes⟩
  exact hhere.trans htarget.symm

/-- A path that leads somewhere else leads where it led before. -/
theorem find_put_of_target_ne (hstands : fs.Stands (origin here p))
    (htarget : fs.target there p = .ok loc) (hne : fs.target here p ≠ fs.target there p)
    (mode : Nat) :
    (fs.put loc (.file mode content)).find here p = .ok l ↔ fs.find here p = .ok l ∧ l ≠ loc := by
  obtain ⟨hcheck, -, htakes⟩ := target_eq_ok_iff.1 htarget
  have hroot := ne_nil_of_target htarget
  have hleaf := isLeaf_of_target htarget
  have hleaf' : ∀ node, (fs.put loc (.file mode content)).node? loc = some node → node.IsLeaf :=
    isLeaf_of_put hroot
  have hsame (l : Location) (hl : l ≠ loc) :
      (fs.put loc (.file mode content)).node? l = fs.node? l := fs.node?_put_of_ne _ hl
  have hsearch (l : Location) (hl : l ≠ loc) :
      (fs.put loc (.file mode content)).permits l .execute = fs.permits l .execute :=
    fs.permits_put_of_ne _ hl _
  have helse (hp : p ≠ []) {l : Location}
      (hleads : Leads fs .look maxLinks (origin here p) (FilePath.steps p) l) : l ≠ loc := by
    rintro rfl
    exact hne (target_of_reach hstands htarget (reach_eq_ok_iff.2 ⟨hp, hleads⟩))
  have hstands' : (fs.put loc (.file mode content)).Stands (origin here p) := by
    intro above h
    have hdir := hstands above h
    have hl : above ≠ loc := by
      rintro rfl
      exact htakes.directory hdir
    rw [hsame above hl, hdir]
  rw [find_eq_ok_iff, find_eq_ok_iff]
  constructor
  · rintro ⟨-, hreach, hsome⟩
    obtain ⟨hp, hleads⟩ := reach_eq_ok_iff.1 hreach
    have hback := hleads.transfer hsame hsearch hleaf' hleaf hstands'
    have hl := helse hp hback
    rw [hsame l hl] at hsome
    exact ⟨⟨hcheck, reach_eq_ok_iff.2 ⟨hp, hback⟩, hsome⟩, hl⟩
  · rintro ⟨⟨-, hreach, hsome⟩, hl⟩
    obtain ⟨hp, hleads⟩ := reach_eq_ok_iff.1 hreach
    have hforth := hleads.transfer (fun l hl => (hsame l hl).symm) (fun l hl => (hsearch l hl).symm)
      hleaf hleaf' hstands
    rw [← hsame l hl] at hsome
    exact ⟨hcheck, reach_eq_ok_iff.2 ⟨hp, hforth⟩, hsome⟩

theorem find_of_target (h : fs.target here p = .ok loc) (hnode : fs.node? loc = some node) :
    fs.find here p = .ok loc := by
  obtain ⟨hcheck, hreach, -⟩ := target_eq_ok_iff.1 h
  obtain ⟨hp, hleads⟩ := reach_eq_ok_iff.1 hreach
  exact find_eq_ok_iff.2 ⟨hcheck, reach_eq_ok_iff.2 ⟨hp, hleads.look⟩, by simp [hnode]⟩

theorem stat_of_target (h : fs.target here p = .ok loc) (hnode : fs.node? loc = some node) :
    fs.stat here p = .ok node :=
  stat_of_find (find_of_target h hnode) hnode

theorem allows_put_of_target (hstands : fs.Stands (origin here p))
    (h : fs.target here p = .ok loc) (mode : Nat) (content : Bytes) (a : Access) :
    (fs.put loc (.file mode content)).allows here p a =
      ((fs.node? loc).isNone || fs.permits loc a) := by
  rw [allows_of_find (find_put_of_target hstands h mode content), permits_put]

/-- What has been written is read, where no device is in the way and what was there before could be
read. -/
theorem read_of_write (hstands : fs.Stands (origin here p)) (h : fs.write here p content = .ok fs')
    (hdevice : ∀ d, fs.stat here p ≠ .ok (.device d))
    (hread : ∀ node, fs.stat here p = .ok node → fs.allows here p .read = true) :
    fs'.read here p = .ok content := by
  obtain ⟨loc, htarget, ⟨d, -, hnode, -⟩ | ⟨-, mode, rfl⟩⟩ := write_eq_ok h
  · exact absurd (stat_of_target htarget hnode) (hdevice d)
  · refine read_eq_ok_iff.2 ⟨?_, .inl ⟨mode, stat_put_of_target hstands htarget mode content⟩⟩
    rw [allows_put_of_target hstands htarget]
    cases hnode : fs.node? loc with
    | none => rfl
    | some node =>
      have hallows := hread node (stat_of_target htarget hnode)
      rw [allows_of_find (find_of_target htarget hnode)] at hallows
      exact hallows

/-- Where a path names a file that may be written, it is written to. -/
theorem target_of_stat_file (hstands : fs.Stands (origin here p)) {mode : Nat} {old : Bytes}
    (h : fs.stat here p = .ok (.file mode old)) (hwrite : fs.allows here p .write = true) :
    ∃ loc, fs.target here p = .ok loc ∧ fs.node? loc = some (.file mode old) := by
  obtain ⟨loc, hfind, hnode⟩ := exists_find_of_stat h
  obtain ⟨hcheck, hreach, -⟩ := find_eq_ok_iff.1 hfind
  obtain ⟨hp, hleads⟩ := reach_eq_ok_iff.1 hreach
  rw [allows_of_find hfind] at hwrite
  have htakes : fs.Takes loc := by
    refine ⟨?_, ?_, fun _ => hwrite, fun hnone => ?_⟩
    · simp [hnode]
    · simp [hnode]
    · rw [hnode] at hnone
      cases hnone
  have hcreate := reach_eq_ok_iff.2 ⟨hp, hleads.create hstands htakes.directory⟩
  exact ⟨loc, target_eq_ok_iff.2 ⟨hcheck, hcreate, htakes⟩, hnode⟩

/-- Then it names the file with the new content, and with its old rights. -/
theorem write_of_stat_file (hstands : fs.Stands (origin here p)) {mode : Nat} {old : Bytes}
    (h : fs.stat here p = .ok (.file mode old)) (hwrite : fs.allows here p .write = true)
    (content : Bytes) :
    ∃ fs', fs.write here p content = .ok fs' ∧ fs'.stat here p = .ok (.file mode content) ∧
      ∀ a, fs'.allows here p a = fs.allows here p a := by
  obtain ⟨loc, htarget, hnode⟩ := target_of_stat_file hstands h hwrite
  refine ⟨fs.put loc (.file mode content), write_of_file htarget hnode content,
    stat_put_of_target hstands htarget mode content, fun a => ?_⟩
  rw [allows_put_of_target hstands htarget, allows_of_find (find_of_target htarget hnode), hnode]
  rfl

theorem eq_of_write_device {d : Device} (hstat : fs.stat here p = .ok (.device d))
    (h : fs.write here p content = .ok fs') : d ≠ .terminal ∧ fs' = fs := by
  obtain ⟨-, l, hreach, hnode⟩ := stat_eq_ok_iff.1 hstat
  obtain ⟨loc, htarget, hloc⟩ := write_eq_ok h
  obtain ⟨hp, hleads⟩ := reach_eq_ok_iff.1 (target_eq_ok_iff.1 htarget).2.1
  have hlook : fs.reach .look here p = .ok loc := reach_eq_ok_iff.2 ⟨hp, hleads.look⟩
  rw [hlook] at hreach
  rw [← Except.ok.inj hreach] at hnode
  rcases hloc with ⟨d', hterminal, hnode', rfl⟩ | ⟨hdevice, -⟩
  · rw [hnode] at hnode'
    cases hnode'
    exact ⟨hterminal, rfl⟩
  · exact absurd hnode (hdevice d)

/-- A write from another directory, where the path leads somewhere else, is not seen here. -/
theorem read_afterWrite_of_ne (hstands : fs.Stands (origin here p))
    (hne : fs.target here p ≠ fs.target there p) (written : Bytes) :
    (fs.afterWrite there p written).read here p = .ok content ↔ fs.read here p = .ok content := by
  cases hwrite : fs.write there p written with
  | error fault => rw [afterWrite_of_error hwrite]
  | ok fs' =>
    rw [afterWrite_of_ok hwrite]
    obtain ⟨loc, htarget, ⟨-, -, -, rfl⟩ | ⟨-, mode, rfl⟩⟩ := write_eq_ok hwrite
    · rfl
    · have hfind {l : Location} : (fs.put loc (.file mode written)).find here p = .ok l ↔
          fs.find here p = .ok l ∧ l ≠ loc := find_put_of_target_ne hstands htarget hne mode
      have hread {fs fs' : FileSystem} (hfind : ∀ {l}, fs.find here p = .ok l →
          fs'.find here p = .ok l ∧ fs'.node? l = fs.node? l ∧
            fs'.permits l .read = fs.permits l .read)
          (h : fs.read here p = .ok content) : fs'.read here p = .ok content := by
        obtain ⟨hallows, hstat⟩ := read_eq_ok_iff.1 h
        obtain ⟨l, hl, hpermits⟩ := exists_find_of_allows hallows
        obtain ⟨hl', hnode', hpermits'⟩ := hfind hl
        have hsame : fs'.stat here p = fs.stat here p := by
          simp only [stat, hl, hl', hnode', bind, Except.bind]
        refine read_eq_ok_iff.2 ⟨?_, hsame ▸ hstat⟩
        rw [allows_of_find hl', hpermits', hpermits]
      constructor
      · refine hread fun hl => ?_
        obtain ⟨hl', hne'⟩ := hfind.1 hl
        exact ⟨hl', (fs.node?_put_of_ne _ hne').symm, (fs.permits_put_of_ne _ hne' _).symm⟩
      · intro h
        refine hread (fun {l} hl => ?_) h
        -- Nothing is found here in the place itself, for then the path would lead there from here.
        have hne' : l ≠ loc := by
          rintro rfl
          exact hne (target_of_reach hstands htarget (find_eq_ok_iff.1 hl).2.1)
        exact ⟨hfind.2 ⟨hl, hne'⟩, fs.node?_put_of_ne _ hne', fs.permits_put_of_ne _ hne' _⟩

/-- The path names a regular file that may be written but not read. -/
structure WriteOnly (fs : FileSystem) (here : Location) (p : FilePath) : Prop where
  regular : ∃ mode content, fs.stat here p = .ok (.file mode content)
  unreadable : fs.allows here p .read = false
  writable : fs.allows here p .write = true

/-- There it is written to. -/
theorem WriteOnly.afterWrite (h : fs.WriteOnly here p) (hstands : fs.Stands (origin here p))
    (content : Bytes) :
    ∃ mode, (fs.afterWrite here p content).stat here p = .ok (.file mode content) := by
  obtain ⟨mode, old, hstat⟩ := h.regular
  obtain ⟨fs', hwrite, hnew, -⟩ := write_of_stat_file hstands hstat h.writable content
  exact ⟨mode, afterWrite_of_ok hwrite ▸ hnew⟩

end GuidedShell.FileSystem
