import GuidedShell.Proofs.Command.PathNames
import GuidedShell.Proofs.Session.Submission
import GuidedShell.Proofs.Text.Trim

/-! What comes of a name from the index when it is entered as a line. -/
namespace GuidedShell

namespace Session

open Command

/-- Entered as a command, the line is this name and these words after it, and the name stands for the
program at `p`. -/
structure Starts (s : Session) (line name : String) (args : List String) (p : FilePath) : Prop where
  words : Text.words (Text.trim line) = name :: args
  accepted : External.accept? s.setting name = some p

variable {programs : Programs} {s : Session} {line name : String} {args : List String}
  {p : FilePath}

/-- The launcher looks at no history, so the line can be recorded before it runs. -/
theorem accept?_record (s : Session) (line name : String) :
    External.accept? (s.record line).setting name = External.accept? s.setting name := by
  unfold External.accept?
  rfl

/-- A line of one word is recorded and run as a command with no arguments. -/
theorem handle_of_lone_word (hmode : s.mode = .normal) (hc : s.suggestions.confirmed? = none)
    (hwords : Text.words (Text.trim line) = [name]) :
    s.handle programs (.submitLine line) =
      (((s.record (Text.trim line)).run programs name []).display
        s.hideSuggestions.1.suggestions).after s.hideSuggestions.2 := by
  have hobey : (s.record (Text.trim line)).obey programs (Text.trim line) =
      (s.record (Text.trim line)).run programs name [] := by
    unfold obey
    rw [mode_record, hmode, hwords]
  rw [handle_eq_obey programs hc, hobey]

/-- A name from the index of the search path is entered, perhaps with a blank after it, as an accepted
suggestion leaves it. It stands for a program just if there is no blank in it, some directory has a
program of this very spelling, and no directory before that has something else under the name. With
no blank in it, it is run as a command with no arguments, whatever it stands for. -/
theorem indexed_name_starts_iff (programs : Programs) (htree : s.world.files.IsTree) {search : String}
    (hpath : s.environment.var? s.world "PATH" = some search)
    (hmem : name ∈ (CommandIndex.build s.world s.environment).names)
    (hline : Text.trim line = Text.trim name)
    (hmode : s.mode = .normal) (hc : s.suggestions.confirmed? = none) :
    ((∃ p, s.Starts line name [] p ∧ CommandIndex.isProgram s.world p) ↔
        Text.hasBlank name = false ∧
          s.world.RunsFirst (Text.bytes search) (Text.bytes name)) ∧
      (Text.hasBlank name = false →
        s.handle programs (.submitLine line) =
          (((s.record (Text.trim line)).run programs name []).display
            s.hideSuggestions.1.suggestions).after s.hideSuggestions.2) := by
  have hscan : name ∈ (CommandIndex.scan s.world (Text.bytes search) []).names := by
    unfold CommandIndex.build at hmem
    rw [hpath] at hmem
    exact hmem
  have hbare := CommandIndex.isBareName_of_mem_scan htree hscan
  have haccept : External.accept? s.setting name =
      s.world.search? (Text.bytes search) (Text.bytes name) :=
    (External.accept?_of_some hpath).trans (World.command?_of_isBareName hbare _)
  have hwords : Text.words (Text.trim line) = [name] ↔ Text.hasBlank name = false := by
    rw [hline]
    exact Text.words_trim_eq_singleton_iff hbare.nonempty
  refine ⟨?_, fun hblank => handle_of_lone_word hmode hc (hwords.2 hblank)⟩
  rw [← hwords, ← World.exists_search?_isProgram_iff, ← haccept]
  constructor
  · rintro ⟨p, h, hruns⟩
    exact ⟨h.words, p, h.accepted, hruns⟩
  · rintro ⟨hwords, p, haccepted, hruns⟩
    exact ⟨p, ⟨hwords, haccepted⟩, hruns⟩

/-- A session with a search path of two directories, and entries in the tree below them. -/
def onPath (entries : List (Location × Node)) : Session :=
  let directories := [([Text.bytes "data"], .directory), ([Text.bytes "bin"], .directory)]
  new ⟨⟨directories ++ entries, []⟩, [], [("PATH", "/data:/bin")], none⟩ ⟨[], [FilePath.slash], false⟩
    .empty .empty

/-- A name that was accepted as a suggestion starts its program. -/
theorem indexed_name_starts_git :
    let s := onPath [([Text.bytes "git", Text.bytes "bin"], .file 0o755 [])]
    (∃ p, s.Starts "git " "git" [] p ∧ CommandIndex.isProgram s.world p) ∧
      s.Starts "git " "git" [] (Text.bytes "/bin/git") := by
  intro s
  have htree : s.world.files.IsTree := by decide +kernel
  have hpath : s.environment.var? s.world "PATH" = some "/data:/bin" := by decide +kernel
  have hmem : "git" ∈ (CommandIndex.build s.world s.environment).names := by decide +kernel
  have hline : Text.trim "git " = Text.trim "git" := by decide +kernel
  have hfirst : s.world.RunsFirst (Text.bytes "/data:/bin") (Text.bytes "git") :=
    ⟨[Text.bytes "/data"], Text.bytes "/bin", [], by decide +kernel, by decide +kernel,
      by decide +kernel⟩
  have hiff := (indexed_name_starts_iff .idle htree hpath hmem hline rfl rfl).1
  exact ⟨hiff.2 ⟨by decide +kernel, hfirst⟩, by decide +kernel, by decide +kernel⟩

/-- Three names of an index start nothing: one that the file spells with a capital, one under which an
earlier directory has a file without an execute bit, and one with a blank in it. -/
theorem indexed_name_not_starts :
    let program : Node := .file 0o755 []
    let s := onPath
      [([Text.bytes "tool", Text.bytes "data"], .file 0o644 []),
        ([Text.bytes "tool", Text.bytes "bin"], program),
        ([Text.bytes "Git", Text.bytes "bin"], program),
        ([Text.bytes "my prog", Text.bytes "bin"], program)]
    s.world.files.IsTree ∧
      (CommandIndex.build s.world s.environment).names = ["git", "my prog", "tool"] ∧
      ∀ name ∈ ["git", "my prog", "tool"], name ∉ Builtin.names ∧
        ¬∃ p, s.Starts name name [] p ∧ CommandIndex.isProgram s.world p := by
  intro program s
  have htree : s.world.files.IsTree := by decide +kernel
  have hnames : (CommandIndex.build s.world s.environment).names = ["git", "my prog", "tool"] := by
    decide +kernel
  have hcapital : External.accept? s.setting "git" = none := by decide +kernel
  have hblank : Text.words (Text.trim "my prog") = ["my", "prog"] := by decide +kernel
  have hshadowed : External.accept? s.setting "tool" = some (Text.bytes "/data/tool") := by
    decide +kernel
  have hdata : CommandIndex.isProgram s.world (Text.bytes "/data/tool") = false := by
    decide +kernel
  refine ⟨htree, hnames, fun name hmem => ?_⟩
  simp only [List.mem_cons, List.not_mem_nil, or_false] at hmem
  obtain rfl | rfl | rfl := hmem
  · refine ⟨by decide +kernel, ?_⟩
    rintro ⟨p, h, -⟩
    have haccepted := h.accepted
    rw [hcapital] at haccepted
    cases haccepted
  · refine ⟨by decide +kernel, ?_⟩
    rintro ⟨p, h, -⟩
    have hwords := h.words
    rw [hblank] at hwords
    exact absurd (List.cons.inj hwords).1 (by decide)
  · refine ⟨by decide +kernel, ?_⟩
    rintro ⟨p, h, hruns⟩
    have haccepted := h.accepted
    rw [hshadowed] at haccepted
    cases haccepted
    rw [hdata] at hruns
    cases hruns

end Session

end GuidedShell
