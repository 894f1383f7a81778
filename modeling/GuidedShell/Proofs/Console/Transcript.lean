import GuidedShell.Proofs.Console.EndOfInput
import GuidedShell.Proofs.Terminal.Written

/-! Every line is read at the start of a line of the terminal. For that one line feed goes in before a
read if what was told since the read before has left a line open, and nothing else does. -/
namespace GuidedShell

namespace Session

variable {programs : Programs}

/-- A session that closes says so to the end of a line. -/
theorem calls_shutdown_eq_concat (s : Session) :
    ∃ front text, s.shutdown.2 = front ++ [.print (text ++ "\n")] := by
  rw [calls_shutdown]
  cases s.history.refusal? s.world with
  | none => exact ⟨[], "Saving history... Exiting AuraShell...", rfl⟩
  | some failure => exact ⟨[_], _, rfl⟩

theorem calls_run_of_exit {s : Session} {name : String} {args : List String}
    (h : (s.run programs name args).flow = .exit) :
    ∃ front t, (s.run programs name args).calls = front ++ (shutdown t).2 := by
  rw [run_eq] at h ⊢
  dsimp only at h ⊢
  split
  · exact ⟨_, _, rfl⟩
  · rename_i hlasts
    rw [if_neg hlasts] at h
    cases h

theorem calls_obey_of_exit (programs : Programs) (s : Session) (line : String)
    (h : (s.obey programs line).flow = .exit) :
    ∃ front t, (s.obey programs line).calls = front ++ (shutdown t).2 := by
  unfold obey at h ⊢
  split at h
  · rename_i menu _
    rw [flow_answer] at h
    cases h
  · split at h
    · cases h
    · exact calls_run_of_exit h

/-- Where an event ends a session, the last that the surface is told is that it closes. -/
theorem calls_handle_of_exit {s : Session} {e : Event}
    (h : (s.handle programs e).flow = .exit) :
    ∃ front t, (s.handle programs e).calls = front ++ (shutdown t).2 := by
  cases he : s.edits e with
  | true =>
    rw [(handle_of_edits programs he).1] at h
    cases h
  | false =>
    obtain ⟨⟨line, rfl⟩, hc⟩ := edits_eq_false_iff.1 he
    have hobeys := calls_obey_of_exit programs (s.hideSuggestions.1.record (Text.trim line))
      (Text.trim line)
    rw [handle_unconfirmed programs hc] at h ⊢
    generalize (s.hideSuggestions.1.record (Text.trim line)).obey programs (Text.trim line) = r
      at h hobeys ⊢
    obtain ⟨front, t, hcalls⟩ := hobeys h
    refine ⟨s.hideSuggestions.2 ++ front, t, ?_⟩
    rw [List.append_assoc, ← hcalls]
    rfl

end Session

namespace Console

open Surface Terminal

/-- What the surface is told when a line is taken, or when there is none to take. -/
def State.told (programs : Programs) (s : State) : Option String → List Call
  | none => s.session.shutdown.2
  | some line => (s.session.handle programs (.submitLine line)).calls

/-- One turn of the loop: the state that comes to it, and what the surface is told about the line that
is read in it. -/
structure Turn where
  before : State
  calls : List Call

/-- The state in which the turn asks for its line. -/
def Turn.asks (plain : Bool) (t : Turn) : State := t.before.ready plain

/-- The turns of a run. -/
def State.turns (libs : Libraries) (programs : Programs) (plain : Bool) (s : State) :
    List Bytes → List Turn
  | [] => [⟨s, (s.ready plain).told programs none⟩]
  | raw :: rest =>
    ⟨s, (s.ready plain).told programs (libs.text? raw)⟩ ::
      match (s.ready plain).take programs (libs.text? raw) with
      | (_, .exit) => []
      | (s, .goOn) => turns libs programs plain s rest

namespace State

variable (programs : Programs)

theorem atLineStart_ready (plain : Bool) (s : State) :
    (s.ready plain).display.atLineStart = true := s.display.atLineStart_finishLine

theorem written_ready (s : State) :
    (s.ready false).display.written = s.display.finishLine.written := String.append_empty

theorem fresh_ready {s : State} (h : s.display.Fresh) : (s.ready false).display.Fresh := by
  intro _
  rw [written_ready]
  exact h.finishLine s.display.atLineStart_finishLine

theorem display_take {s : State} (h : s.display.atLineStart = true) (line? : Option String) :
    (s.take programs line?).1.display = s.display.applyAll (s.told programs line?) := by
  cases line? with
  | none =>
    have hline : s.display.finishLine = s.display := Display.finishLine_of_atLineStart h
    unfold take close
    dsimp only
    rw [hline]
    rfl
  | some line => rfl

/-- A session ends at the start of a line, if it was there when it took its last line. -/
theorem atLineStart_take {s : State} (hs : s.display.atLineStart = true) (line? : Option String)
    (h : (s.take programs line?).2 = .exit) :
    (s.take programs line?).1.display.atLineStart = true := by
  have hcloses : ∃ front t, s.told programs line? = front ++ (Session.shutdown t).2 := by
    cases line? with
    | none => exact ⟨[], s.session, rfl⟩
    | some line => exact Session.calls_handle_of_exit h
  obtain ⟨front, t, htold⟩ := hcloses
  obtain ⟨notices, text, hshutdown⟩ := t.calls_shutdown_eq_concat
  have hfeed : Text.endsWith (text ++ "\n") "\n" = true := Text.endsWith_append text (by decide)
  have hne : text ++ "\n" ≠ "" := by simp
  have hopen : leavesOpen (s.told programs line?) = false := by
    rw [htold, hshutdown, ← List.append_assoc, leavesOpen_concat_print _ hne, hfeed]
    rfl
  rw [display_take programs hs, Display.atLineStart_applyAll hs, hopen]
  rfl

end State

theorem Turn.atLineStart_asks (plain : Bool) (t : Turn) :
    (t.asks plain).display.atLineStart = true := t.before.atLineStart_ready plain

/-- The turns follow one another on a terminal that has made these calls since it was last at the
start of a line. -/
inductive Follows (plain : Bool) : Display → List Call → List Turn → Prop
  | nil (d : Display) (calls : List Call) : Follows plain d calls []
  | cons {d : Display} {calls : List Call} {t : Turn} {rest : List Turn}
    (before : t.before.display = d.applyAll calls)
    (more : Follows plain (t.asks plain).display t.calls rest) : Follows plain d calls (t :: rest)

namespace State

variable (libs : Libraries) (programs : Programs) (plain : Bool)

theorem follows_turns {s : State} {d : Display} {calls : List Call}
    (h : s.display = d.applyAll calls) (raws : List Bytes) :
    Follows plain d calls (s.turns libs programs plain raws) := by
  induction raws generalizing s d calls with
  | nil => exact .cons h (.nil ..)
  | cons raw rest ih =>
    have hdisplay := display_take programs (s.atLineStart_ready plain) (libs.text? raw)
    unfold turns
    refine .cons h ?_
    generalize (s.ready plain).take programs (libs.text? raw) = taken at hdisplay ⊢
    obtain ⟨next, flow⟩ := taken
    cases flow with
    | exit => exact .nil ..
    | goOn => exact ih hdisplay

/-- A run ends with its last turn, and at the start of a line. -/
theorem exists_last_turn (s : State) (raws : List Bytes) :
    ∃ front t, s.turns libs programs plain raws = front ++ [t] ∧
      (s.run libs programs plain raws).display = (t.asks plain).display.applyAll t.calls ∧
      (s.run libs programs plain raws).display.atLineStart = true := by
  induction raws generalizing s with
  | nil =>
    have hstart := s.atLineStart_ready plain
    exact ⟨[], _, rfl, display_take programs hstart none, atLineStart_take programs hstart none rfl⟩
  | cons raw rest ih =>
    have hstart := s.atLineStart_ready plain
    have hdisplay := display_take programs hstart (libs.text? raw)
    have hexit := atLineStart_take programs hstart (libs.text? raw)
    unfold turns run
    generalize (s.ready plain).take programs (libs.text? raw) = taken at hdisplay hexit ⊢
    obtain ⟨next, flow⟩ := taken
    cases flow with
    | exit => exact ⟨[], _, rfl, hdisplay, hexit rfl⟩
    | goOn =>
      obtain ⟨front, t, hturns, hrun, hends⟩ := ih next
      exact ⟨_ :: front, t, congrArg (_ :: ·) hturns, hrun, hends⟩

end State

namespace Follows

variable {d : Display} {calls : List Call} {turns : List Turn}

theorem endsLine_asks (h : Follows false d calls turns) (hfresh : (d.applyAll calls).Fresh) :
    ∀ t ∈ turns, EndsLine (t.asks false).display.written := by
  induction h with
  | nil => exact fun t ht => nomatch ht
  | @cons d calls t rest before _ ih =>
    rw [← before] at hfresh
    have hasks : (t.asks false).display.Fresh := State.fresh_ready hfresh
    intro u hu
    rcases List.mem_cons.1 hu with rfl | hu
    · exact hasks (u.atLineStart_asks false)
    · exact ih (hasks.applyAll t.calls) u hu

/-- Before a read goes in what ends the line that the calls since the last one have left open. -/
theorem written_asks {t : Turn} {back : List Turn} (h : Follows false d calls (t :: back))
    (hd : d.atLineStart = true) :
    (t.asks false).display.written = t.before.display.written ++ lineBreak calls := by
  cases h with
  | cons before =>
    have hopen : t.before.display.atLineStart = !leavesOpen calls := by
      rw [before]
      exact Display.atLineStart_applyAll hd calls
    rw [Turn.asks, State.written_ready, Display.written_finishLine, hopen, lineBreak]
    cases leavesOpen calls <;> rfl

theorem written_at {front : List Turn} {t : Turn} {back : List Turn}
    (h : Follows false d calls (front ++ t :: back)) (hd : d.atLineStart = true) :
    t.before.display.written = d.written ++ transcript calls (front.map (·.calls)) ∧
      (t.asks false).display.written = t.before.display.written ++
        lineBreak ((front.map (·.calls)).getLastD calls) := by
  induction front generalizing d calls with
  | nil =>
    refine ⟨?_, h.written_asks hd⟩
    cases h with
    | cons before =>
      rw [before]
      exact d.written_applyAll calls
  | cons u front ih =>
    have hasks := h.written_asks hd
    cases h with
    | cons before more =>
      -- After a turn has asked, the terminal is at the start of a line again, whatever came before.
      obtain ⟨hbefore, hbreak⟩ := ih more (u.atLineStart_asks false)
      have hlast : ((u :: front).map (·.calls)).getLastD calls =
          (front.map (·.calls)).getLastD u.calls := by
        cases front <;> rfl
      refine ⟨?_, hlast ▸ hbreak⟩
      rw [hbefore, hasks, before, Display.written_applyAll, List.map_cons, transcript]
      simp only [String.append_assoc]

end Follows

namespace State

variable (libs : Libraries) (programs : Programs) {s : State} {first : List Call}

/-- What has been written when a turn begins, and what its read adds. -/
theorem written_turn (h : s.display = Display.empty.applyAll first) {raws : List Bytes}
    {front : List Turn} {t : Turn} {back : List Turn}
    (hsplit : s.turns libs programs false raws = front ++ t :: back) :
    t.before.display.written = transcript first (front.map (·.calls)) ∧
      (t.asks false).display.written = t.before.display.written ++
        lineBreak ((front.map (·.calls)).getLastD first) := by
  have hfollows := follows_turns libs programs false h raws
  rw [hsplit] at hfollows
  have hnone : Display.empty.written ++ transcript first (front.map (·.calls)) =
      transcript first (front.map (·.calls)) := String.empty_append
  rw [← hnone]
  exact hfollows.written_at rfl

theorem written_run (h : s.display = Display.empty.applyAll first) (raws : List Bytes) :
    (s.run libs programs false raws).display.written =
      transcript first ((s.turns libs programs false raws).map (·.calls)) := by
  obtain ⟨front, last, hlast, hdisplay, -⟩ := exists_last_turn libs programs false s raws
  obtain ⟨hbefore, hbreak⟩ := written_turn libs programs h hlast
  rw [hdisplay, Display.written_applyAll, hbreak, hbefore, hlast, List.map_append,
    List.map_singleton, transcript_concat]

theorem endsLine_turns (h : s.display = Display.empty.applyAll first) (hfresh : s.display.Fresh)
    (raws : List Bytes) :
    ∀ t ∈ s.turns libs programs false raws, EndsLine (t.asks false).display.written :=
  (follows_turns libs programs false h raws).endsLine_asks (h ▸ hfresh)

theorem endsLine_run (h : s.display = Display.empty.applyAll first) (hfresh : s.display.Fresh)
    (raws : List Bytes) : EndsLine (s.run libs programs false raws).display.written := by
  obtain ⟨front, last, hlast, hdisplay, hends⟩ := exists_last_turn libs programs false s raws
  have hmem : last ∈ s.turns libs programs false raws := by simp [hlast]
  have hasks : (last.asks false).display.Fresh :=
    fun _ => endsLine_turns libs programs h hfresh raws last hmem
  rw [hdisplay] at hends ⊢
  exact hasks.applyAll last.calls hends

end State

/-- What is told before the first line is read: why there is no history, if it could not be loaded,
and the welcome. -/
def opening (w : World) (file : FilePath) : List Call :=
  (History.load w.files w.here file).2.toList.map
      (fun f => .print ("Error loading history: " ++ f.message ++ "\n")) ++ [.print welcome]

theorem display_start (w : World) (file : FilePath) :
    (start w file).display = Display.empty.applyAll (opening w file) := rfl

theorem fresh_start (w : World) (file : FilePath) : (start w file).display.Fresh := by
  rw [display_start, opening, Display.applyAll_concat]
  exact Display.fresh_print (by decide) _

/-- Every line is read at the start of a line. On a terminal where no prompt is written, what has been
written ends a line or wipes the screen each time a line is asked for, and at the end of the session.
All that is written is what the session tells, after the complaint about the history and the welcome,
and just before a read one line feed if the last print or wipe since the read before it, of those that
wrote anything, was a print that left its line open. -/
theorem every_read_starts_line {libs : Libraries} {programs : Programs} {w : World}
    {words : List String} {options : Options} (hwords : libs.parse words = .ok options)
    {terminal : String} (hterminal : libs.isPlain terminal = false) (input : Bytes) :
    let file := (Settings.ofOptions options (startEnvironment w) w).historyFile
    let first := opening w file
    let turns := (start w file).turns libs programs (libs.isPlain terminal) (rawLines input)
    let stdout := (process programs w terminal words input libs).1.stdout
    (∀ t ∈ turns, EndsLine (t.asks (libs.isPlain terminal)).display.written) ∧ EndsLine stdout ∧
      stdout = transcript first (turns.map (·.calls)) ∧
      ∀ front t back, turns = front ++ t :: back →
        t.before.display.written = transcript first (front.map (·.calls)) ∧
        (t.asks (libs.isPlain terminal)).display.written = t.before.display.written ++
          lineBreak ((front.map (·.calls)).getLastD first) := by
  intro file first turns stdout
  have hturns : turns = (start w file).turns libs programs false (rawLines input) := by
    rw [← hterminal]
  have hstdout : stdout =
      ((start w file).run libs programs false (rawLines input)).display.written := by
    rw [← hterminal]
    simp only [stdout, process, hwords, file]
    rfl
  have hstart : (start w file).display = Display.empty.applyAll first := display_start w file
  have hfresh := fresh_start w file
  rw [hterminal, hturns, hstdout]
  refine ⟨?_, ?_, ?_, fun front t back hsplit => ?_⟩
  · exact State.endsLine_turns libs programs hstart hfresh (rawLines input)
  · exact State.endsLine_run libs programs hstart hfresh (rawLines input)
  · exact State.written_run libs programs hstart (rawLines input)
  · exact State.written_turn libs programs hstart hsplit

/-- A name with a slip in it, and the choice from the menu that it brings up. The menu leaves its line
open for that reply. -/
def menuAndReply : Bytes := Text.bytes "exti\n1\n"

/-- The reply to a menu is read on the next line. -/
theorem every_read_starts_line_menu :
    let words := ["--history-file", "/h"]
    let w := Session.bare.world
    let plain := Libraries.standard.isPlain "xterm"
    let turns := (start w (Text.bytes "/h")).turns .standard .idle plain (rawLines menuAndReply)
    Libraries.standard.parse words = .ok ⟨some "/h", none⟩ ∧ plain = false ∧
      (∀ t ∈ turns, EndsLine (t.asks plain).display.written) ∧
      (process .idle w "xterm" words menuAndReply).1.stdout =
        welcome ++ "Command not found: 'exti'. Did you mean:\n  1) exit\n" ++
          "Enter a number (1-1) or 'n' to cancel: \n" ++
          "Saving history... Exiting AuraShell...\n" := by
  intro words w plain turns
  have hwords : Libraries.standard.parse words = .ok ⟨some "/h", none⟩ := by rfl
  have hterminal : plain = false := by decide +kernel
  obtain ⟨hasks, -, hstdout, -⟩ :=
    @every_read_starts_line .standard .idle w words _ hwords "xterm" hterminal menuAndReply
  exact ⟨hwords, hterminal, hasks, hstdout.trans (by decide +kernel)⟩

/-- The reply to a menu prints nothing. So the last print before the third read is still the menu, which
has left its line open, but no second line feed goes in for it. -/
theorem silent_turn_adds_no_break :
    let words := ["--history-file", "/h"]
    let w := Session.bare.world
    let first := opening w (Text.bytes "/h")
    let plain := Libraries.standard.isPlain "xterm"
    let turns := (start w (Text.bytes "/h")).turns .standard .idle plain (rawLines menuAndReply)
    Libraries.standard.parse words = .ok ⟨some "/h", none⟩ ∧ plain = false ∧
      ¬ ∀ front t back, turns = front ++ t :: back →
        (t.asks plain).display.written = t.before.display.written ++
          lineBreak (first ++ front.flatMap (·.calls)) := by
  intro words w first plain turns
  refine ⟨by rfl, by decide +kernel, fun h => ?_⟩
  -- The third read is the last, and there the two sides differ.
  have hsame : turns.getLast?.any (fun t =>
      (t.asks plain).display.written = t.before.display.written ++
        lineBreak (first ++ turns.dropLast.flatMap (·.calls))) = false := by decide +kernel
  obtain ⟨front, third, hturns, -⟩ := State.exists_last_turn .standard .idle plain
    (start w (Text.bytes "/h")) (rawLines menuAndReply)
  have hlast : turns = front ++ [third] := hturns
  rw [hlast, List.getLast?_concat, List.dropLast_concat] at hsame
  exact of_decide_eq_false hsame (h front third [] hlast)

end Console

end GuidedShell
