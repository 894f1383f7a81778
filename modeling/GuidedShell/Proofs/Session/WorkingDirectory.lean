import GuidedShell.Proofs.CommandIndex.Lookup
import GuidedShell.Proofs.Exec.Start
import GuidedShell.Proofs.FileSystem.Canonical
import GuidedShell.Proofs.Session.Effects
import GuidedShell.Proofs.Session.IndexedNames

/-! A session has a current directory, and its process has a working directory. They are one, and
only `cd` moves them. -/
namespace GuidedShell

namespace FileSystem

/-- A directory stands as long as nothing is put into its place. -/
theorem Stands.put {fs : FileSystem} {here loc : Location} (h : fs.Stands here)
    (hloc : fs.node? loc ≠ some .directory) (node : Node) : (fs.put loc node).Stands here := by
  intro above habove
  have hne : above ≠ loc := by
    rintro rfl
    exact hloc (h _ habove)
  rw [fs.node?_put_of_ne node hne]
  exact h above habove

theorem Stands.write {fs fs' : FileSystem} {here there : Location} {p : FilePath} {content : Bytes}
    (h : fs.Stands here) (hwrite : fs.write there p content = .ok fs') : fs'.Stands here := by
  obtain ⟨loc, htarget, ⟨-, -, -, rfl⟩ | ⟨-, mode, rfl⟩⟩ := write_eq_ok hwrite
  · exact h
  · exact h.put (target_eq_ok_iff.1 htarget).2.2.1 _

end FileSystem

theorem History.stands_kept {h : History} {w : World} {here : Location} (hw : w.files.Stands here) :
    (h.kept w).Stands here := by
  unfold kept save
  cases h.file? with
  | none => exact hw
  | some file =>
    cases hwrite : w.files.write w.here file (render h.entries) with
    | ok files =>
      dsimp only
      rw [hwrite]
      exact hw.write hwrite
    | error fault =>
      dsimp only
      rw [hwrite]
      exact hw

namespace Command

/-- Why `cd` fails. -/
inductive CdFails (s : Setting) (args : List String) : Failure → Prop
  | homeUnknown (asked : args.head? = none ∨ args.head? = some "~")
    (unknown : s.environment.home? s.world = none) : CdFails s args .homeUnknown
  | missing {target} (asked : Builtin.cdTarget args s = .ok target)
    (absolute : s.world.files.absolute s.world.here
      (FilePath.join s.environment.currentDir target) = .error .notFound) :
    CdFails s args (.directoryNotFound target)
  | refused {target fault} (asked : Builtin.cdTarget args s = .ok target)
    (absolute : s.world.files.absolute s.world.here
      (FilePath.join s.environment.currentDir target) = .error fault)
    (found : fault ≠ .notFound) : CdFails s args (.directoryRefused fault)
  | closed {target loc fault} (asked : Builtin.cdTarget args s = .ok target)
    (absolute : s.world.files.absolute s.world.here
      (FilePath.join s.environment.currentDir target) = .ok loc)
    (entered : s.world.files.enter s.world.here loc.path = .error fault) :
    CdFails s args (.directoryRefused fault)

/-- Where `cd` goes: to the canonical place of its target, which is entered by its path. -/
structure CdMoves (s : Setting) (args : List String) (canonical entered : Location) : Prop where
  asked : ∃ target, Builtin.cdTarget args s = .ok target ∧
    s.world.files.absolute s.world.here (FilePath.join s.environment.currentDir target) =
      .ok canonical
  entered : s.world.files.enter s.world.here canonical.path = .ok entered

theorem Builtin.cdTarget_error {s : Setting} {args : List String} {failure : Failure}
    (h : cdTarget args s = .error failure) :
    failure = .homeUnknown ∧ (args.head? = none ∨ args.head? = some "~") ∧
      s.environment.home? s.world = none := by
  unfold cdTarget at h
  cases hhome : s.environment.home? s.world with
  | some home =>
    rw [hhome] at h
    cases hhead : args.head? with
    | none => simp [hhead] at h
    | some t =>
      rw [hhead] at h
      dsimp only at h
      split at h <;> cases h
  | none =>
    rw [hhome] at h
    cases hhead : args.head? with
    | none =>
      rw [hhead] at h
      cases h
      exact ⟨rfl, .inl rfl, rfl⟩
    | some t =>
      rw [hhead] at h
      dsimp only at h
      split at h
      · rename_i ht
        cases h
        exact ⟨rfl, .inr (congrArg some ht), rfl⟩
      · cases h

/-- What `cd` does when it goes somewhere. -/
def Setting.moved (s : Setting) (canonical entered : Location) : Effect :=
  { s.effect (.ok (.finished 0)) "" with
    environment := { s.environment with currentDir := canonical.path }
    world := { s.world with here := entered } }

theorem CdMoves.runCd_eq {s : Setting} {args : List String} {canonical entered : Location}
    (h : CdMoves s args canonical entered) :
    Builtin.runCd args s = s.moved canonical entered := by
  obtain ⟨⟨target, htarget, habsolute⟩, henter⟩ := h
  simp only [Builtin.runCd, Builtin.cdPlace, htarget, habsolute, henter, bind, Except.bind]
  rfl

theorem runCd_cases (args : List String) (s : Setting) :
    (∃ failure, CdFails s args failure ∧
      Builtin.runCd args s = s.effect (.ok (.finished 1)) (failure.message ++ "\n")) ∨
    ∃ canonical entered, CdMoves s args canonical entered ∧
      Builtin.runCd args s = s.moved canonical entered := by
  cases htarget : Builtin.cdTarget args s with
  | error failure =>
    obtain ⟨rfl, hasked, hunknown⟩ := Builtin.cdTarget_error htarget
    refine .inl ⟨_, .homeUnknown hasked hunknown, ?_⟩
    simp only [Builtin.runCd, htarget, bind, Except.bind]
  | ok target =>
    cases habsolute : s.world.files.absolute s.world.here
        (FilePath.join s.environment.currentDir target) with
    | error fault =>
      left
      by_cases hfault : fault = .notFound
      · subst hfault
        refine ⟨_, .missing htarget habsolute, ?_⟩
        simp only [Builtin.runCd, Builtin.cdPlace, htarget, habsolute, bind, Except.bind]
      · have hplace : Builtin.cdPlace s target = .error (.directoryRefused fault) := by
          unfold Builtin.cdPlace
          rw [habsolute]
          cases fault with
          | notFound => exact absurd rfl hfault
          | _ => rfl
        refine ⟨_, .refused htarget habsolute hfault, ?_⟩
        simp only [Builtin.runCd, htarget, hplace, bind, Except.bind]
    | ok loc =>
      cases henter : s.world.files.enter s.world.here loc.path with
      | error fault =>
        refine .inl ⟨_, .closed htarget habsolute henter, ?_⟩
        simp only [Builtin.runCd, Builtin.cdPlace, htarget, habsolute, henter, bind, Except.bind]
      | ok entered =>
        have hmoves : CdMoves s args loc entered := ⟨⟨target, htarget, habsolute⟩, henter⟩
        exact .inr ⟨loc, entered, hmoves, hmoves.runCd_eq⟩

theorem dispatch_cd (programs : Programs) (s : Setting) (args : List String) :
    dispatch programs s "cd" args = Builtin.runCd args s := dispatch_name programs s .cd args

theorem files_cd (programs : Programs) (s : Setting) (args : List String) :
    (dispatch programs s "cd" args).world.files = s.world.files := by
  rw [dispatch_cd]
  rcases runCd_cases args s with ⟨_, -, heq⟩ | ⟨_, _, -, heq⟩
  · rw [heq]
    rfl
  · rw [heq]
    rfl

/-- No other command moves anything. -/
theorem dispatch_of_ne_cd (programs : Programs) (s : Setting) {name : String} (h : name ≠ "cd")
    (args : List String) :
    (dispatch programs s name args).environment.currentDir = s.environment.currentDir ∧
      (dispatch programs s name args).world.here = s.world.here := by
  unfold dispatch dispatch?
  cases hb : Builtin.ofName? name with
  | some b =>
    rw [Builtin.ofName?_eq_some_iff] at hb
    cases b with
    | cd => exact absurd hb h
    | exit | echo | pwd | history | clear | help => exact ⟨rfl, rfl⟩
    | type =>
      simp only [Option.getD_some, Builtin.run, Builtin.runType]
      split
      · exact ⟨rfl, rfl⟩
      · split
        · exact ⟨rfl, rfl⟩
        · split <;> exact ⟨rfl, rfl⟩
  | none =>
    cases External.accept? s name with
    | none => exact ⟨rfl, rfl⟩
    | some program =>
      simp only [Option.map_some, Option.getD_some, External.run]
      split
      · unfold External.settle
        dsimp only
        split <;> exact ⟨rfl, rfl⟩
      · exact ⟨rfl, rfl⟩
      · exact ⟨rfl, rfl⟩

theorem CdMoves.eq {s : Setting} {args : List String} {canonical entered : Location}
    (h : CdMoves s args canonical entered)
    (hdir : FilePath.isAbsolute s.environment.currentDir = true) :
    entered = canonical ∧ s.world.files.Stands canonical ∧ s.world.files.Searched canonical := by
  obtain ⟨⟨target, -, habsolute⟩, henter⟩ := h
  exact FileSystem.eq_of_enter_absolute (FilePath.isAbsolute_join hdir target) habsolute henter

/-- The launcher looks a mere name up once more, along the search path that it was found by. -/
theorem External.finder_eq {s : Setting} {name : String} {p : FilePath}
    (h : accept? s name = some p) :
    ∃ search, s.world.command? search (Text.bytes name) = some p ∧
      (FilePath.slash ∈ p → finder s p = .direct) ∧
      (FilePath.slash ∉ p → ∃ lenient, finder s p = .along search lenient) := by
  unfold accept? at h
  split at h
  · cases h
  · rename_i search hvar
    refine ⟨Text.bytes search, h, fun hslash => ?_, fun hslash => ?_⟩
    · exact if_pos (by simpa using hslash)
    · unfold finder
      rw [if_neg (by simpa using hslash)]
      unfold Environment.var? at hvar
      cases hown : s.environment.vars.get? "PATH" with
      | some own =>
        rw [hown] at hvar
        cases hvar
        exact ⟨true, rfl⟩
      | none =>
        rw [hown] at hvar
        have hworld : s.world.vars.get? "PATH" = some search := hvar
        dsimp only [Exec.Finder.ofVars]
        rw [hworld]
        exact ⟨false, rfl⟩

end Command

namespace Session

open Command

variable {programs : Programs} {s : Session} {e : Event}

/-- The session is in the directory it says it is in, and that is there. -/
structure Settled (s : Session) : Prop where
  same : s.environment.currentDir = s.world.here.path
  stands : s.world.files.Stands s.world.here
  spelled : FileSystem.IsSpelled s.world.here

/-- No command of the run takes away the directory that the session is in when it is entered. -/
def KeepsDirectory (programs : Programs) (s : Session) (events : List Event) : Prop :=
  ∀ t ∈ s.steps programs events, ∀ effect, t.before.effect? programs t.event = some effect →
    t.before.world.files.Stands t.before.world.here →
    effect.world.files.Stands t.before.world.here

/-- What an event does to the current directory of the session and the working directory of its
process. -/
inductive Turns (programs : Programs) (s : Session) (e : Event) (next : Session) : Prop
  /-- The event is no `cd`, and leaves both alone. -/
  | stays (other : ∀ line args, ¬s.Obeys e line "cd" args)
    (currentDir : next.environment.currentDir = s.environment.currentDir)
    (here : next.world.here = s.world.here)
  /-- A `cd` that comes out well moves both to one canonical place, where a directory is. -/
  | moves {line args target loc} (command : s.Obeys e line "cd" args)
    (finished : (dispatch programs (s.record (Text.trim line)).setting "cd" args).outcome =
      .ok (.finished 0))
    (asked : Builtin.cdTarget args (s.record (Text.trim line)).setting = .ok target)
    (canonical : s.world.files.absolute s.world.here
      (FilePath.join s.environment.currentDir target) = .ok loc)
    (directory : s.world.files.Stands loc)
    (currentDir : next.environment.currentDir = loc.path) (here : next.world.here = loc)
  /-- Any other `cd` leaves both alone, and writes why. -/
  | fails {line args failure} (command : s.Obeys e line "cd" args)
    (finished : (dispatch programs (s.record (Text.trim line)).setting "cd" args).outcome =
      .ok (.finished 1))
    (reason : CdFails (s.record (Text.trim line)).setting args failure)
    (written : (dispatch programs (s.record (Text.trim line)).setting "cd" args).output =
      Text.bytes (failure.message ++ "\n"))
    (currentDir : next.environment.currentDir = s.environment.currentDir)
    (here : next.world.here = s.world.here)

/-- What an event leaves of the two directories is what its command leaves of them. -/
theorem directories_handle {effect : Effect} (heffect : s.effect? programs e = some effect) :
    (s.handle programs e).session.environment.currentDir = effect.environment.currentDir ∧
      (s.handle programs e).session.world.here = effect.world.here := by
  cases changes_handle programs s e with
  | still hnone =>
    rw [heffect] at hnone
    cases hnone
  | obeyed hsome _ henvironment hworld =>
    rw [heffect] at hsome
    cases hsome
    rw [henvironment, hworld]
    exact ⟨rfl, rfl⟩
  | closed hsome _ henvironment hworld =>
    rw [heffect] at hsome
    cases hsome
    rw [henvironment, hworld]
    exact ⟨rfl, rfl⟩

theorem turns_handle (programs : Programs)
    (hdir : FilePath.isAbsolute s.environment.currentDir = true) (e : Event) :
    s.Turns programs e (s.handle programs e).session := by
  cases heffect : s.effect? programs e with
  | none =>
    have hother (line : String) (args : List String) : ¬s.Obeys e line "cd" args := by
      intro hobeys
      have hsome := (effect?_eq_some_iff programs).2 ⟨line, "cd", args, hobeys, rfl⟩
      rw [heffect] at hsome
      cases hsome
    cases changes_handle programs s e with
    | still _ _ henvironment hworld =>
      exact .stays hother (congrArg (·.currentDir) henvironment) (congrArg (·.here) hworld)
    | obeyed hsome | closed hsome =>
      rw [heffect] at hsome
      cases hsome
  | some effect =>
    obtain ⟨hcurrent, hhere⟩ := directories_handle heffect
    obtain ⟨line, name, args, hobeys, rfl⟩ := (effect?_eq_some_iff programs).1 heffect
    by_cases hname : name = "cd"
    · subst hname
      have hrun := dispatch_cd programs (s.record (Text.trim line)).setting args
      rw [hrun] at hcurrent hhere
      rcases runCd_cases args (s.record (Text.trim line)).setting with
        ⟨failure, hfails, heq⟩ | ⟨canonical, entered, hmoves, heq⟩
      · rw [heq] at hcurrent hhere hrun
        refine .fails hobeys ?_ hfails ?_ hcurrent hhere
        · rw [hrun]
          rfl
        · rw [hrun]
          rfl
      · rw [heq] at hcurrent hhere hrun
        obtain ⟨rfl, hstands, -⟩ := hmoves.eq hdir
        obtain ⟨target, hasked, hcanonical⟩ := hmoves.asked
        refine .moves hobeys ?_ hasked hcanonical hstands hcurrent hhere
        rw [hrun]
        rfl
    · have hother (line' : String) (args' : List String) : ¬s.Obeys e line' "cd" args' := by
        intro hcd
        exact hname (hobeys.unique hcd).2.1
      obtain ⟨hsame, hsame'⟩ :=
        dispatch_of_ne_cd programs (s.record (Text.trim line)).setting hname args
      exact .stays hother (hcurrent.trans hsame) (hhere.trans hsame')

/-- A directory stands after an event, if it stood before and the command left it standing. -/
theorem stands_handle {place : Location} (hs : s.world.files.Stands place)
    (hkeeps : ∀ effect, s.effect? programs e = some effect → effect.world.files.Stands place) :
    (s.handle programs e).session.world.files.Stands place := by
  cases changes_handle programs s e with
  | still _ _ _ hworld =>
    rw [hworld]
    exact hs
  | obeyed heffect _ _ hworld =>
    rw [hworld]
    exact hkeeps _ heffect
  | closed heffect _ _ hworld =>
    rw [hworld]
    exact History.stands_kept (hkeeps _ heffect)

namespace Settled

theorem isAbsolute (hs : s.Settled) : FilePath.isAbsolute s.environment.currentDir = true := by
  rw [hs.same]
  exact s.world.here.isAbsolute_path

theorem handle (hs : s.Settled)
    (hkeeps : ∀ effect, s.effect? programs e = some effect →
      effect.world.files.Stands s.world.here) :
    (s.handle programs e).session.Settled := by
  have hstill := stands_handle hs.stands hkeeps
  cases turns_handle programs hs.isAbsolute e with
  | stays _ hcurrent hhere | fails _ _ _ _ hcurrent hhere =>
    refine ⟨?_, ?_, ?_⟩
    · rw [hcurrent, hhere, hs.same]
    · rw [hhere]
      exact hstill
    · rw [hhere]
      exact hs.spelled
  | moves hobeys _ _ hcanonical hdirectory hcurrent hhere =>
    refine ⟨?_, ?_, ?_⟩
    · rw [hcurrent, hhere]
    · -- The event is a `cd`, and that leaves the files alone.
      rw [hhere]
      refine stands_handle hdirectory fun effect heffect => ?_
      obtain ⟨line, name, args, hobeys', rfl⟩ := (effect?_eq_some_iff programs).1 heffect
      obtain ⟨-, rfl, -⟩ := hobeys.unique hobeys'
      rw [files_cd]
      exact hdirectory
    · rw [hhere]
      exact FileSystem.isSpelled_of_absolute (FilePath.isAbsolute_join hs.isAbsolute _) hcanonical

theorem after (hs : s.Settled) {events : List Event} (hkeeps : s.KeepsDirectory programs events) :
    (s.after programs events).Settled :=
  after_of_steps programs (fun _ _ ht hsettled =>
    hsettled.handle fun effect heffect => hkeeps _ ht effect heffect hsettled.stands) hs

end Settled

theorem launch_record (s : Session) (line : String) (p : FilePath) (args : List String) :
    External.launch (s.record line).setting p args = External.launch s.setting p args := by
  unfold External.launch
  rfl

/-- The launch starts the file that the path names from the directory of the session. -/
def Executes (s : Session) (p : FilePath) (args : List String) (l : Launch) : Prop :=
  ∃ isScript, Exec.start s.world.files s.world.here
    (Exec.assignments (s.environment.childVars s.world)) isScript p (p :: args.map Text.bytes) =
      .ok (l.program, l.words)

/-- The file that the path names from the directory of the session cannot be started, for a reason
for which a search goes on. -/
def PassesOver (s : Session) (p : FilePath) (args : List String) : Prop :=
  ∃ isScript fault, Exec.Skips fault ∧ Exec.start s.world.files s.world.here
    (Exec.assignments (s.environment.childVars s.world)) isScript p (p :: args.map Text.bytes) =
      .error fault

/-- A program that was found by a relative path is started in the directory of the session, and from
the file that was found there. Only a mere name, which no slash makes a path, is looked for once
more, and then a file that cannot be started is passed over. -/
theorem Settled.launch (hs : s.Settled) {name : String} {args : List String} {p : FilePath}
    {l : Launch} (haccept : External.accept? s.setting name = some p)
    (hlaunch : External.launch s.setting p args = .ok l) :
    s.world.exist p ∧ l.directory = s.world.here ∧
      (s.Executes p args l ∨ FilePath.slash ∉ p ∧ s.PassesOver p args) := by
  obtain ⟨search, hfound, hdirect, halong⟩ := External.finder_eq haccept
  obtain ⟨henter, hstart⟩ := Exec.prepare_eq_ok hlaunch
  have hdirectory : l.directory = s.world.here := by
    have hcurrent : s.setting.environment.currentDir = s.world.here.path := hs.same
    rw [hcurrent] at henter
    exact hs.stands.eq_of_enter hs.spelled henter
  refine ⟨World.exist_of_command? hfound, hdirectory, ?_⟩
  rw [hdirectory] at hstart
  by_cases hslash : FilePath.slash ∈ p
  · rw [hdirect hslash] at hstart
    dsimp only [Exec.Finder.start] at hstart
    exact .inl ⟨_, hstart⟩
  · obtain ⟨lenient, hfinder⟩ := halong hslash
    rw [hfinder] at hstart
    dsimp only [Exec.Finder.start] at hstart
    rcases World.command?_of_noSlash hfound hslash with rfl | ⟨front, back, hlist, hfront⟩
    · refine .inr ⟨hslash, fun _ => lenient, _, .denied, ?_⟩
      exact Exec.start_here hs.stands
    · rw [hlist] at hstart
      rcases Exec.startAlong_eq_ok hstart with hstart | ⟨fault, hskips, hstart⟩ | ⟨d, hd, hstart⟩
      · rw [FilePath.nil_join] at hstart
        exact .inl ⟨_, hstart⟩
      · rw [FilePath.nil_join] at hstart
        exact .inr ⟨hslash, _, fault, hskips, hstart⟩
      · -- The command was looked for in this directory, too, and was not there.
        have hexist : s.world.exist (FilePath.join d p) := Exec.exist_of_start hstart
        have hnone : s.world.exist (FilePath.join d p) = false := hfront d hd
        rw [hnone] at hexist
        cases hexist

theorem keepsDirectory_of_programs {events : List Event}
    (hprograms : ∀ launch files here, files.Stands here →
      (programs launch files).files.Stands here) : s.KeepsDirectory programs events := by
  intro t _ effect heffect
  obtain ⟨line, name, args, -, rfl⟩ := (effect?_eq_some_iff programs).1 heffect
  exact files_dispatch (fun before after => before.Stands t.before.world.here →
    after.Stands t.before.world.here) (fun _ h => h)
    (fun launch files h => hprograms launch files _ h)
    (t.before.record (Text.trim line)).setting name args

/-- The directory that a session is in and the one that its process is in never part, as long as no
program takes it away. A `cd` that comes out well moves both to one canonical place, and any other
leaves both alone, comes out with 1 and writes one error. So a program that is found by a relative
path is started where it was found. There is one exception: what an empty stretch of the search path
found is a mere name, and if that file cannot be started, a later one may be. -/
theorem directories_agree (hs : s.Settled) {events : List Event}
    (hkeeps : s.KeepsDirectory programs events) :
    (s.after programs events).Settled ∧
      ∀ t ∈ s.steps programs events, t.before.Settled ∧
        t.before.Turns programs t.event t.reaction.session ∧
        ∀ line name args p l, t.before.Obeys t.event line name args →
          External.accept? (t.before.record (Text.trim line)).setting name = some p →
          External.launch (t.before.record (Text.trim line)).setting p args = .ok l →
          t.before.world.exist p ∧ l.directory = t.before.world.here ∧
            (t.before.Executes p args l ∨
              FilePath.slash ∉ p ∧ t.before.PassesOver p args) := by
  refine ⟨hs.after hkeeps, fun t ht => ?_⟩
  obtain ⟨front, e, back, rfl, rfl⟩ := (mem_steps_iff programs).1 ht
  have hbefore : (s.after programs front).Settled := hs.after fun t ht => by
    refine hkeeps t ?_
    rw [steps_append]
    exact List.mem_append_left _ ht
  refine ⟨hbefore, turns_handle programs hbefore.isAbsolute e, ?_⟩
  intro line name args p l _ haccept hlaunch
  rw [accept?_record] at haccept
  rw [launch_record] at hlaunch
  exact hbefore.launch haccept hlaunch

/-- One `cd` that comes out well, and one that does not. -/
theorem directories_agree_sub :
    let s := new ⟨⟨[([Text.bytes "sub"], .directory)], []⟩, [], [], none⟩ ⟨[], [FilePath.slash], false⟩
      .empty .empty
    let last := s.after .idle [.submitLine "cd sub", .submitLine "cd nowhere"]
    last.environment.currentDir = last.world.here.path ∧
      last.environment.currentDir = Text.bytes "/sub" := by
  intro s last
  have hs : s.Settled := ⟨rfl, FileSystem.stands_nil _, .nil⟩
  have hkeeps : s.KeepsDirectory .idle [.submitLine "cd sub", .submitLine "cd nowhere"] :=
    keepsDirectory_of_programs fun _ _ _ h => h
  have hlast : last.Settled := (directories_agree hs hkeeps).1
  exact ⟨hlast.same, by decide +kernel⟩

/-- The empty stretch at the front of the search path finds a file in the working directory. It
cannot be started, and a program of another directory is started in its place. -/
theorem directories_agree_not_executed :
    let program : Node := .file 0o755 Exec.Header.nativeFront
    let files : FileSystem := ⟨[([Text.bytes "tool"], .file 0o644 []),
      ([Text.bytes "bin"], .directory), ([Text.bytes "tool", Text.bytes "bin"], program)], []⟩
    let s := new ⟨files, [], [("PATH", ":/bin")], none⟩ ⟨[], [FilePath.slash], false⟩ .empty .empty
    let p := Text.bytes "tool"
    s.Settled ∧ External.accept? s.setting "tool" = some p ∧ FilePath.isAbsolute p = false ∧
      s.world.files.find s.world.here p = .ok [Text.bytes "tool"] ∧
      (External.launch s.setting p []).map (·.program) = .ok [Text.bytes "tool", Text.bytes "bin"] ∧
      ∀ l, ¬s.Executes p [] l := by
  intro program files s p
  have himage : Exec.image s.world.files s.world.here p = .error .permissionDenied := by
    decide +kernel
  refine ⟨⟨rfl, FileSystem.stands_nil _, .nil⟩, by decide +kernel, by decide +kernel,
    by decide +kernel, by decide +kernel, ?_⟩
  rintro l ⟨isScript, hstart⟩
  rw [Exec.start_of_image_error himage] at hstart
  cases hstart

end Session

end GuidedShell
