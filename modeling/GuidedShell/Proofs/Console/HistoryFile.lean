import GuidedShell.Console.Run
import GuidedShell.Proofs.FileSystem.Writing
import GuidedShell.Proofs.History.Persistence
import GuidedShell.Proofs.Session.Closing
import GuidedShell.Proofs.Session.Log
import GuidedShell.Proofs.Session.Run

/-! What the file of the history holds after a whole session, and when the next session finds it
there. -/
namespace GuidedShell.Console

open Terminal

/-- What a history keeps of lines: they are trimmed, and blank ones are left out. -/
def recorded (lines : List String) : List String := (lines.map Text.trim).filter (!·.isEmpty)

/-- The lines that a session takes, up to the one that ends it. -/
def taken (libs : Libraries) (programs : Programs) (s : Session) : List Bytes → List String
  | [] => []
  | raw :: rest =>
    match libs.text? raw with
    | none => []
    | some line =>
      let r := s.handle programs (.submitLine line)
      match r.flow with
      | .exit => [line]
      | .goOn => line :: taken libs programs r.session rest

/-- The session as it is when no more lines come, or the line comes that ends it. -/
def beforeClose (libs : Libraries) (programs : Programs) (s : Session) : List Bytes → Session
  | [] => s
  | raw :: rest =>
    match libs.text? raw with
    | none => s
    | some line =>
      let r := s.handle programs (.submitLine line)
      match r.flow with
      | .exit => s
      | .goOn => beforeClose libs programs r.session rest

theorem recorded_cons (line : String) (lines : List String) :
    recorded (line :: lines) = [Text.trim line].filter (!·.isEmpty) ++ recorded lines :=
  List.filter_append [Text.trim line] (lines.map Text.trim)

variable (libs : Libraries) (programs : Programs)

/-- A session that reads its lines from an input: no list is on display, and it is not yet to end. -/
structure Reads (s : Session) : Prop where
  unconfirmed : s.suggestions.confirmed? = none
  inactive : s.suggestions.isActive = false
  lasts : s.environment.shouldExit = false

theorem Reads.handle {s : Session} (h : Reads s) {line : String}
    (hlasts : (s.handle programs (.submitLine line)).session.environment.shouldExit = false) :
    Reads (s.handle programs (.submitLine line)).session := by
  have hinactive : (s.handle programs (.submitLine line)).session.suggestions.isActive = false := by
    rw [Session.handle_eq_obey programs h.unconfirmed]
    exact s.inactive_hideSuggestions
  exact ⟨Suggestions.confirmed?_of_inactive hinactive, hinactive, hlasts⟩

theorem mem_taken {s : Session} {raws : List Bytes} {line : String}
    (h : line ∈ taken libs programs s raws) : ∃ raw ∈ raws, libs.text? raw = some line := by
  induction raws generalizing s with
  | nil => cases h
  | cons raw rest ih =>
    unfold taken at h
    split at h
    · cases h
    · rename_i text htext
      dsimp only at h
      split at h
      · rw [List.mem_singleton] at h
        exact ⟨raw, List.mem_cons_self, h ▸ htext⟩
      · rcases List.mem_cons.1 h with rfl | h
        · exact ⟨raw, List.mem_cons_self, htext⟩
        · obtain ⟨raw', hraw', hline⟩ := ih h
          exact ⟨raw', List.mem_cons_of_mem _ hraw', hline⟩

theorem tidy_of_mem_recorded (hlibs : libs.DropsLineFeed) {s : Session} {input : Bytes} {e : String}
    (h : e ∈ recorded (taken libs programs s (rawLines input))) : History.Tidy e := by
  obtain ⟨hmem, hne⟩ := List.mem_filter.1 h
  obtain ⟨line, hline, rfl⟩ := List.mem_map.1 hmem
  obtain ⟨raw, hraw, htext⟩ := mem_taken libs programs hline
  have hfeed : '\n' ∉ line.toList := hlibs raw line (lineFeed_not_mem_dropLast hraw) htext
  exact History.tidy_trim hfeed (by simpa using hne)

theorem files_close {s : State} {file : FilePath} (hfile : s.session.history.file? = some file) :
    s.close.session.world.files =
      s.session.world.files.afterWrite s.session.world.here file
        (History.render s.session.history.entries) := by
  calc s.close.session.world.files = s.session.shutdown.1.world.files := rfl
    _ = s.session.history.kept s.session.world := s.session.files_shutdown
    _ = _ := History.kept_eq hfile s.session.world

theorem files_run (plain : Bool) {s : State} (hs : Reads s.session) {file : FilePath}
    (hfile : s.session.history.file? = some file) (raws : List Bytes) :
    let last := beforeClose libs programs s.session raws
    (s.run libs programs plain raws).session.world.files =
      last.world.files.afterWrite last.world.here file
        (History.render (s.session.history.entries ++
          recorded (taken libs programs s.session raws))) := by
  induction raws generalizing s with
  | nil =>
    have hnone : s.session.history.entries ++ recorded [] = s.session.history.entries :=
      List.append_nil _
    dsimp only [taken, beforeClose]
    rw [hnone]
    exact files_close (s := s.ready plain) hfile
  | cons raw rest ih =>
    unfold State.run taken beforeClose
    cases htext : libs.text? raw with
    | none =>
      have hnone : s.session.history.entries ++ recorded [] = s.session.history.entries :=
        List.append_nil _
      dsimp only [State.take]
      rw [hnone]
      exact files_close (s := s.ready plain) hfile
    | some line =>
      have hready : (s.ready plain).session = s.session := rfl
      have hhistory := Session.history_handle programs hs.unconfirmed line
      have hentries := s.session.entries_record (Text.trim line)
      have hfile' := (s.session.file?_record (Text.trim line)).trans hfile
      -- A line that ends the session saves the history itself, before anything else can move it.
      rcases Session.handle_cases programs hs.unconfirmed hs.lasts line with
        ⟨hflow, hlasts⟩ | ⟨hflow, hfiles⟩
      · have hnext := hs.handle programs hlasts
        rw [← hhistory] at hentries hfile'
        dsimp only [State.take]
        rw [hready, hflow]
        dsimp only
        rw [recorded_cons, ← List.append_assoc, ← hentries]
        exact ih hnext hfile'
      · dsimp only [State.take]
        rw [hready, hflow]
        dsimp only
        rw [hfiles, History.kept_eq hfile', hentries]
        rfl

theorem world_beforeClose {s : Session} (hs : Reads s) {raws : List Bytes}
    (h : recorded (taken libs programs s raws) = []) :
    (beforeClose libs programs s raws).world = s.world := by
  induction raws generalizing s with
  | nil => rfl
  | cons raw rest ih =>
    unfold taken at h
    unfold beforeClose
    cases htext : libs.text? raw with
    | none => rfl
    | some line =>
      rw [htext] at h
      dsimp only at h ⊢
      rcases Session.handle_cases programs hs.unconfirmed hs.lasts line with
        ⟨hflow, hlasts⟩ | ⟨hflow, -⟩
      · rw [hflow] at h ⊢
        dsimp only at h ⊢
        rw [recorded_cons] at h
        obtain ⟨hline, hrest⟩ := List.append_eq_nil_iff.1 h
        have hblank : Text.trim line = "" := by simpa using hline
        have hworld := Session.world_handle_blank programs hs.unconfirmed hblank
        rw [ih (hs.handle programs hlasts) hrest, hworld]
      · rw [hflow]

theorem reads_start (w : World) (file : FilePath) : Reads (start w file).session :=
  ⟨rfl, rfl, rfl⟩

/-- The session just before it closes. -/
def closing (libs : Libraries) (programs : Programs) (w : World) (file : FilePath) (input : Bytes) :
    Session :=
  beforeClose libs programs (start w file).session (rawLines input)

/-- What the session records. -/
def entered (libs : Libraries) (programs : Programs) (w : World) (file : FilePath) (input : Bytes) :
    List String :=
  recorded (taken libs programs (start w file).session (rawLines input))

/-- What the file of the history is to hold after the session: what it held, and what was entered. -/
def due (libs : Libraries) (programs : Programs) (w : World) (file : FilePath) (input : Bytes) :
    List String :=
  (History.load w.files w.here file).1.entries ++ entered libs programs w file input

/-- The file of the history is missing or can be read when the session begins, its commands do not
touch it, and when it closes, the file could be written from where the session began. -/
structure Undisturbed (libs : Libraries) (programs : Programs) (w : World) (file : FilePath)
    (input : Bytes) : Prop where
  readable : w.files.read w.here file = .error .notFound ∨
    ∃ content, w.files.read w.here file = .ok content
  same : (closing libs programs w file input).world.files.SameAt w.here w.files w.here file
  stands : (closing libs programs w file input).world.files.Stands (FileSystem.origin w.here file)
  writable : ∃ files, (closing libs programs w file input).world.files.write w.here file
    (History.render (due libs programs w file input)) = .ok files

variable {libs} {programs} {w : World} {file : FilePath} {input : Bytes}

theorem Undisturbed.exists_read (h : Undisturbed libs programs w file input) {node : Node}
    (hnode : w.files.stat w.here file = .ok node) :
    ∃ content, w.files.read w.here file = .ok content :=
  h.readable.resolve_left (FileSystem.read_ne_notFound hnode)

theorem tidy_of_mem_due (hlibs : libs.DropsLineFeed) {e : String}
    (h : e ∈ due libs programs w file input) : History.Tidy e := by
  rcases List.mem_append.1 h with h | h
  · exact History.tidy_of_mem_load h
  · exact tidy_of_mem_recorded libs programs hlibs h

theorem files_session (terminal : String) :
    (session libs programs w terminal file input).session.world.files =
      (closing libs programs w file input).world.files.afterWrite
        (closing libs programs w file input).world.here file
        (History.render (due libs programs w file input)) :=
  files_run libs programs (libs.isPlain terminal) (s := start w file) (reads_start w file)
    (History.file?_load w.files w.here file) (rawLines input)

theorem entered_eq_nil_of_read (hlibs : libs.DropsLineFeed)
    (h : w.files.read w.here file = .ok (History.render (due libs programs w file input))) :
    entered libs programs w file input = [] := by
  have hload := History.load_of_read_render (fun e => tidy_of_mem_due hlibs (e := e)) h
  have hold : due libs programs w file input = (History.load w.files w.here file).1.entries := by
    rw [hload]
    rfl
  have happend : (History.load w.files w.here file).1.entries ++ entered libs programs w file input =
      (History.load w.files w.here file).1.entries := hold
  exact List.append_right_eq_self.1 happend

/-- The path leads to the same place from where the session began and from where it has come to. -/
def Meets (libs : Libraries) (programs : Programs) (w : World) (file : FilePath) (input : Bytes) :
    Prop :=
  (closing libs programs w file input).world.files.target w.here file =
    (closing libs programs w file input).world.files.target
      (closing libs programs w file input).world.here file

theorem meets_of_entered_eq_nil (h : entered libs programs w file input = []) :
    Meets libs programs w file input := by
  have hworld : (closing libs programs w file input).world = w :=
    world_beforeClose libs programs (reads_start w file) h
  unfold Meets
  rw [hworld]

/-- At a device nothing can be due: it gave no entries, and it keeps none. -/
theorem read_session_device (hlibs : libs.DropsLineFeed)
    (h : Undisturbed libs programs w file input)
    (hmeets : Meets libs programs w file input) {d : Device}
    (hd : w.files.stat w.here file = .ok (.device d)) (terminal : String) :
    (session libs programs w terminal file input).session.world.files.read w.here file =
        .ok (History.render (due libs programs w file input)) ↔
      entered libs programs w file input = [] := by
  obtain ⟨files, hwrite⟩ := h.writable
  have hlast : (closing libs programs w file input).world.files.stat w.here file = .ok (.device d) :=
    h.same.stat.trans hd
  obtain ⟨-, rfl⟩ := FileSystem.eq_of_write_device hlast hwrite
  have hdone : (session libs programs w terminal file input).session.world.files =
      (closing libs programs w file input).world.files := by
    rw [files_session, ← FileSystem.afterWrite_congr hmeets, FileSystem.afterWrite_of_ok hwrite]
  have hread : w.files.read w.here file = .ok [] := by
    obtain ⟨content, hcontent⟩ := h.exists_read hd
    rcases (FileSystem.read_eq_ok_iff.1 hcontent).2 with ⟨mode, hfile⟩ | ⟨rfl, -⟩
    · rw [hd] at hfile
      cases hfile
    · exact hcontent
  rw [hdone, h.same.read]
  constructor
  · exact entered_eq_nil_of_read hlibs
  · intro hnone
    have hdue : due libs programs w file input = [] := by
      unfold due
      rw [hnone, History.load_of_read hread]
      rfl
    rw [hdue]
    exact hread

/-- The file holds what is due just if the path leads to it from both places, and it is none of the
devices that keep nothing. -/
theorem read_session_iff (hlibs : libs.DropsLineFeed)
    (h : Undisturbed libs programs w file input) (terminal : String) :
    (session libs programs w terminal file input).session.world.files.read w.here file =
        .ok (History.render (due libs programs w file input)) ↔
      Meets libs programs w file input ∧
        ∀ d, w.files.stat w.here file = .ok (.device d) → entered libs programs w file input = [] := by
  by_cases hmeets : Meets libs programs w file input
  · by_cases hdevice : ∃ d, w.files.stat w.here file = .ok (.device d)
    · obtain ⟨d, hd⟩ := hdevice
      rw [read_session_device hlibs h hmeets hd]
      constructor
      · exact fun hnone => ⟨hmeets, fun _ _ => hnone⟩
      · exact fun hboth => hboth.2 d hd
    · obtain ⟨files, hwrite⟩ := h.writable
      have hnone (d : Device) : w.files.stat w.here file ≠ .ok (.device d) := fun hd =>
        hdevice ⟨d, hd⟩
      have hread : files.read w.here file = .ok (History.render (due libs programs w file input)) := by
        refine FileSystem.read_of_write h.stands hwrite (fun d => ?_) fun node hnode => ?_
        · rw [h.same.stat]
          exact hnone d
        · obtain ⟨content, hcontent⟩ := h.exists_read (h.same.stat.symm.trans hnode)
          exact (h.same.allows .read).trans (FileSystem.read_eq_ok_iff.1 hcontent).1
      have hdone : (session libs programs w terminal file input).session.world.files = files := by
        rw [files_session, ← FileSystem.afterWrite_congr hmeets, FileSystem.afterWrite_of_ok hwrite]
      rw [hdone]
      exact ⟨fun _ => ⟨hmeets, fun d hd => absurd hd (hnone d)⟩, fun _ => hread⟩
  · constructor
    · intro hread
      rw [files_session, FileSystem.read_afterWrite_of_ne h.stands hmeets, h.same.read] at hread
      exact absurd (meets_of_entered_eq_nil (entered_eq_nil_of_read hlibs hread)) hmeets
    · exact fun hboth => absurd hboth.1 hmeets

theorem meets_of_isAbsolute_or_here
    (h : FilePath.isAbsolute file ∨ (closing libs programs w file input).world.here = w.here) :
    Meets libs programs w file input := by
  unfold Meets
  rcases h with h | h
  · exact FileSystem.target_of_isAbsolute h _ _
  · rw [h]

/-- When the history survives a session. The file that its path named at the start holds what it held
and what was entered, and the next session from the same place loads all of it, just if the path leads
there from where the session has come to as well, and a device is given nothing to keep. -/
theorem history_kept_iff (hlibs : libs.DropsLineFeed)
    (h : Undisturbed libs programs w file input) (terminal : String) :
    let files := (session libs programs w terminal file input).session.world.files
    (files.read w.here file = .ok (History.render (due libs programs w file input)) ∧
        History.load files w.here file =
          (History.ofEntries (due libs programs w file input) (some file), none) ↔
      Meets libs programs w file input ∧
        ∀ d, w.files.stat w.here file = .ok (.device d) → entered libs programs w file input = []) ∧
    (FilePath.isAbsolute file ∨ (closing libs programs w file input).world.here = w.here →
      Meets libs programs w file input) := by
  intro files
  refine ⟨?_, meets_of_isAbsolute_or_here⟩
  rw [← read_session_iff hlibs h terminal]
  constructor
  · exact fun hboth => hboth.1
  · intro hread
    exact ⟨hread, History.load_of_read_render (fun e => tidy_of_mem_due hlibs) hread⟩

/-- A tree in which the session can move. -/
def twoDirectories : World := ⟨⟨[([Text.bytes "sub"], .directory)], []⟩, [], [], none⟩

def moveAndLeave : Bytes := Text.bytes "cd sub\nexit\n"

/-- Commands that change no file do not disturb the history, wherever they move the session. -/
theorem undisturbed_of_files (hread : w.files.read w.here file = .error .notFound)
    (hfiles : (closing libs programs w file input).world.files = w.files)
    (hstands : w.files.Stands (FileSystem.origin w.here file))
    (hwritable : ∃ files,
      w.files.write w.here file (History.render (due libs programs w file input)) = .ok files) :
    Undisturbed libs programs w file input := by
  refine ⟨.inl hread, ?_, ?_, ?_⟩
  · rw [hfiles]
    exact .refl _ _ _
  · rw [hfiles]
    exact hstands
  · rw [hfiles]
    exact hwritable

theorem history_kept_moveAndLeave :
    Undisturbed .standard .idle twoDirectories (Text.bytes "/h.txt") moveAndLeave ∧
      (session .standard .idle twoDirectories "" (Text.bytes "/h.txt")
          moveAndLeave).session.world.files.read twoDirectories.here (Text.bytes "/h.txt") =
        .ok (History.render ["cd sub", "exit"]) := by
  have hdue : due .standard .idle twoDirectories (Text.bytes "/h.txt") moveAndLeave =
      ["cd sub", "exit"] := by
    decide +kernel
  have hundisturbed :
      Undisturbed .standard .idle twoDirectories (Text.bytes "/h.txt") moveAndLeave :=
    undisturbed_of_files (by decide +kernel) (by decide +kernel) (FileSystem.stands_nil _)
      (by rw [hdue]; exact ⟨_, rfl⟩)
  have hlaw := history_kept_iff Libraries.standard_dropsLineFeed hundisturbed ""
  have hmeets := hlaw.2 (.inl (by decide))
  have habsent : twoDirectories.files.stat twoDirectories.here (Text.bytes "/h.txt") =
      .error .notFound := by
    decide +kernel
  have hread := (hlaw.1.2 ⟨hmeets, fun d hd => by rw [habsent] at hd; cases hd⟩).1
  rw [hdue] at hread
  exact ⟨hundisturbed, hread⟩

/-- Under a relative path the same session leaves the history where it has come to, and the next
session does not find it. -/
theorem history_not_kept_moveAndLeave :
    Undisturbed .standard .idle twoDirectories (Text.bytes "h.txt") moveAndLeave ∧
      due .standard .idle twoDirectories (Text.bytes "h.txt") moveAndLeave = ["cd sub", "exit"] ∧
      (session .standard .idle twoDirectories "" (Text.bytes "h.txt")
          moveAndLeave).session.world.files.read twoDirectories.here (Text.bytes "h.txt") =
        .error .notFound ∧
      (session .standard .idle twoDirectories "" (Text.bytes "h.txt")
          moveAndLeave).session.world.files.read twoDirectories.here (Text.bytes "sub/h.txt") =
        .ok (History.render ["cd sub", "exit"]) := by
  have hdue : due .standard .idle twoDirectories (Text.bytes "h.txt") moveAndLeave =
      ["cd sub", "exit"] := by
    decide +kernel
  have hundisturbed : Undisturbed .standard .idle twoDirectories (Text.bytes "h.txt") moveAndLeave :=
    undisturbed_of_files (by decide +kernel) (by decide +kernel) (FileSystem.stands_nil _)
      (by rw [hdue]; exact ⟨_, rfl⟩)
  refine ⟨hundisturbed, hdue, ?_, ?_⟩
  · decide +kernel
  · decide +kernel

end GuidedShell.Console
