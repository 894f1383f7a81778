import GuidedShell.Proofs.History.Persistence
import GuidedShell.Proofs.Session.Effects

/-! What a session saves under an absolute path, and what is loaded from there afterwards. -/
namespace GuidedShell

namespace Session

variable (programs : Programs)

/-- The commands of a run leave what the path names as it was, with its rights. The session itself
may write there. -/
def Spares (s : Session) (events : List Event) (file : FilePath) : Prop :=
  ∀ t ∈ s.steps programs events, ∀ effect, t.before.effect? programs t.event = some effect →
    effect.world.files.SameAt effect.world.here t.before.world.files t.before.world.here file

/-- The history is kept under this path, and a regular file is there that may be read and written. -/
structure KeptIn (s : Session) (file : FilePath) : Prop where
  file? : s.history.file? = some file
  regular : ∃ mode content, s.world.files.stat s.world.here file = .ok (.file mode content)
  readable : s.world.files.allows s.world.here file .read = true
  writable : s.world.files.allows s.world.here file .write = true

variable {programs} {s : Session} {file : FilePath} {events : List Event}

theorem spares_of_programs (habsolute : FilePath.isAbsolute file)
    (hprograms : ∀ launch files here, (programs launch files).files.SameAt here files here file) :
    s.Spares programs events file := by
  intro t _ effect heffect
  cases hevent : t.event with
  | textChanged | navigateKey =>
    rw [hevent] at heffect
    cases heffect
  | submitLine line =>
    rw [hevent] at heffect
    simp only [effect?] at heffect
    split at heffect
    · cases heffect
      have hkeeps := Command.files_dispatch
        (fun files files' => ∀ here, files'.SameAt here files here file)
        (fun files here => .refl files here file) hprograms
        (t.before.record (Text.trim line)).setting
      exact (hkeeps _ _ _).trans (.of_isAbsolute habsolute _ _)
    · cases heffect

/-- A save under an absolute path succeeds where a regular file may be written, and leaves one there
with the same rights. -/
theorem save_of_regular (habsolute : FilePath.isAbsolute file) {h : History}
    (hfile : h.file? = some file) {w : World}
    (hregular : ∃ mode content, w.files.stat w.here file = .ok (.file mode content))
    (hwrite : w.files.allows w.here file .write = true) :
    ∃ files mode, h.save w.files w.here = .ok files ∧
      files.stat w.here file = .ok (.file mode (History.render h.entries)) ∧
      ∀ a, files.allows w.here file a = w.files.allows w.here file a := by
  obtain ⟨mode, old, hstat⟩ := hregular
  have hstands : w.files.Stands (FileSystem.origin w.here file) := by
    unfold FileSystem.origin
    rw [if_pos habsolute]
    exact w.files.stands_nil
  obtain ⟨files, hwrite, hnew⟩ :=
    FileSystem.write_of_stat_file hstands hstat hwrite (History.render h.entries)
  refine ⟨files, mode, ?_, hnew⟩
  simp only [History.save, hfile, hwrite]

namespace KeptIn

theorem of_sameAt {t : Session} (h : s.KeptIn file) (hfile : t.history.file? = some file)
    (hsame : t.world.files.SameAt t.world.here s.world.files s.world.here file) : t.KeptIn file where
  file? := hfile
  regular := hsame.stat ▸ h.regular
  readable := (hsame.allows .read).trans h.readable
  writable := (hsame.allows .write).trans h.writable

/-- One event leaves a regular file under the path, whether the session saves there or not. -/
theorem handle (habsolute : FilePath.isAbsolute file) (h : s.KeptIn file) {e : Event}
    (hspares : ∀ effect, s.effect? programs e = some effect →
      effect.world.files.SameAt effect.world.here s.world.files s.world.here file) :
    (s.handle programs e).session.KeptIn file := by
  have hfile := (file?_handle programs s e).trans h.file?
  cases changes_handle programs s e with
  | still _ _ _ hworld =>
    refine h.of_sameAt hfile ?_
    rw [hworld]
    exact .refl _ _ _
  | obeyed heffect _ _ hworld =>
    refine h.of_sameAt hfile ?_
    rw [hworld]
    exact hspares _ heffect
  | closed heffect _ _ hworld =>
    have hsame := hspares _ heffect
    obtain ⟨files, mode, hsave, hnew, hrights⟩ := save_of_regular habsolute hfile
      (hsame.stat ▸ h.regular) ((hsame.allows .write).trans h.writable)
    have hrights' (a : Access) := (hrights a).trans (hsame.allows a)
    have hfiles : (s.handle programs e).session.world.files = files := by
      rw [hworld]
      simp only [History.kept, hsave]
    have hhere := congrArg World.here hworld
    dsimp only at hhere
    refine ⟨hfile, ?_, ?_, ?_⟩
    · rw [hfiles, hhere]
      exact ⟨mode, _, hnew⟩
    · rw [hfiles, hhere, hrights']
      exact h.readable
    · rw [hfiles, hhere, hrights']
      exact h.writable

theorem after (habsolute : FilePath.isAbsolute file) (h : s.KeptIn file)
    (hspares : s.Spares programs events file) : (s.after programs events).KeptIn file := by
  have hstep (t : Session) (e : Event) (ht : ⟨t, e, t.handle programs e⟩ ∈ s.steps programs events)
      (hkept : t.KeptIn file) : (t.handle programs e).session.KeptIn file :=
    hkept.handle habsolute (hspares _ ht)
  exact after_of_steps programs hstep h

/-- What is saved under an absolute path is what is read there from anywhere. -/
theorem exists_save (habsolute : FilePath.isAbsolute file) (h : s.KeptIn file) :
    ∃ files, s.history.save s.world.files s.world.here = .ok files ∧
      ∀ here, files.read here file = .ok (History.render s.history.entries) := by
  obtain ⟨files, mode, hsave, hstat, hrights⟩ :=
    save_of_regular habsolute h.file? h.regular h.writable
  refine ⟨files, hsave, fun here => ?_⟩
  rw [(FileSystem.SameAt.of_isAbsolute habsolute here s.world.here).read]
  exact FileSystem.read_eq_ok_iff.2 ⟨(hrights .read).trans h.readable, .inl ⟨mode, hstat⟩⟩

end KeptIn

theorem exists_line_of_mem_logged {e : String} (h : e ∈ s.logged programs events) :
    ∃ line, .submitLine line ∈ events ∧ e = Text.trim line ∧ e ≠ "" := by
  obtain ⟨t, ht, he⟩ := List.mem_flatMap.1 h
  obtain ⟨front, event, back, rfl, rfl⟩ := (mem_steps_iff programs).1 ht
  cases event with
  | textChanged | navigateKey => cases he
  | submitLine line =>
    simp only [Step.logged] at he
    split at he
    · cases he
    · obtain ⟨hmem, hne⟩ := List.mem_filter.1 he
      refine ⟨line, List.mem_append_right _ List.mem_cons_self, List.mem_singleton.1 hmem, ?_⟩
      simpa using hne

/-- Saving and loading again, exactly. A session starts with the history loaded from a regular file
under an absolute path, which may be read and written, and no command touches that file. Then the
history can be saved, and what is loaded from anywhere is made of the lines in the entries, trimmed,
without the blank ones. These are the entries themselves just if none holds a line feed, as when no
submitted line holds one between its blank ends. No line of an input does that is read by a reader
which drops the line feed at its end, and the standard one does drop it. -/
theorem history_reloads {mode : Nat} {content : Bytes} (habsolute : FilePath.isAbsolute file)
    (hstat : s.world.files.stat s.world.here file = .ok (.file mode content))
    (hread : s.world.files.allows s.world.here file .read = true)
    (hwrite : s.world.files.allows s.world.here file .write = true)
    (hload : s.history = (History.load s.world.files s.world.here file).1)
    (hspares : s.Spares programs events file) :
    let last := s.after programs events
    let lines := last.history.entries.flatMap History.fragments
    (∃ files, last.history.save last.world.files last.world.here = .ok files ∧
        ∀ here, History.load files here file = (History.ofEntries lines (some file), none)) ∧
      (lines = last.history.entries ↔ ∀ e ∈ last.history.entries, '\n' ∉ e.toList) ∧
      ((∀ line, .submitLine line ∈ events → '\n' ∉ (Text.trim line).toList) →
        ∀ e ∈ last.history.entries, '\n' ∉ e.toList) ∧
      (∀ libs : Console.Libraries, libs.DropsLineFeed →
        ∀ input, ∀ raw ∈ Console.rawLines input, ∀ line, libs.text? raw = some line →
          '\n' ∉ (Text.trim line).toList) ∧
      Console.Libraries.standard.DropsLineFeed := by
  intro last lines
  have hfirst : s.KeptIn file :=
    ⟨by rw [hload]; exact History.file?_load _ _ _, ⟨mode, content, hstat⟩, hread, hwrite⟩
  have hentries : last.history.entries = s.history.entries ++ s.logged programs events :=
    entries_after programs s events
  have hold (e : String) (he : e ∈ s.history.entries) : History.Tidy e := by
    rw [hload] at he
    exact History.tidy_of_mem_load he
  refine ⟨?_, ?_, ?_, ?_, Console.Libraries.standard_dropsLineFeed⟩
  · obtain ⟨files, hsave, hread⟩ := (hfirst.after habsolute hspares).exists_save habsolute
    refine ⟨files, hsave, fun here => ?_⟩
    rw [History.load_of_read (hread here), History.parse_render_eq]
  · refine History.flatMap_fragments_eq_iff fun e he => ?_
    rw [hentries] at he
    rcases List.mem_append.1 he with he | he
    · exact ⟨(hold e he).trimmed, (hold e he).nonempty⟩
    · obtain ⟨line, -, rfl, hne⟩ := exists_line_of_mem_logged he
      exact ⟨Text.trim_trim line, hne⟩
  · intro hlines e he
    rw [hentries] at he
    rcases List.mem_append.1 he with he | he
    · exact (hold e he).oneLine
    · obtain ⟨line, hline, rfl, -⟩ := exists_line_of_mem_logged he
      exact hlines line hline
  · intro libs hlibs input raw hraw line hline hmem
    rw [Text.toList_trim] at hmem
    exact hlibs raw line (Console.lineFeed_not_mem_dropLast hraw) hline
      ((Chars.trim_sublist _).subset hmem)

/-- An entry with a line feed in it is loaded as two. -/
theorem history_reloads_twoLines :
    let file := Text.bytes "/h.txt"
    let files := [([Text.bytes "h.txt"], .file 0o644 (Text.bytes " ls \n"))]
    let world : World := ⟨⟨files, []⟩, [], [], none⟩
    let history := (History.load world.files world.here file).1
    let s := new world ⟨[], [FilePath.slash], false⟩ .empty history
    let last := s.after .idle [.submitLine "echo a\n b"]
    last.history.entries = ["ls", "echo a\n b"] ∧
      ∃ files, last.history.save last.world.files last.world.here = .ok files ∧
        (History.load files [] file).1.entries = ["ls", "echo a", "b"] := by
  intro file files world history s last
  have hentries : last.history.entries = ["ls", "echo a\n b"] := by decide +kernel
  have hlines : last.history.entries.flatMap History.fragments = ["ls", "echo a", "b"] := by
    rw [hentries]
    decide +kernel
  have habsolute : FilePath.isAbsolute file := by decide +kernel
  have hspares : s.Spares .idle [.submitLine "echo a\n b"] file :=
    spares_of_programs habsolute fun _ files here => .refl files here file
  have hstat : s.world.files.stat s.world.here file = .ok (.file 0o644 (Text.bytes " ls \n")) := by
    rfl
  obtain ⟨files, hsave, hload⟩ :=
    (history_reloads habsolute hstat (by decide +kernel) (by decide +kernel) rfl hspares).1
  refine ⟨hentries, files, hsave, ?_⟩
  rw [hload, hlines]
  rfl

end Session

end GuidedShell
