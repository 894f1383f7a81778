import GuidedShell.Proofs.CommandIndex.Lookup
import GuidedShell.Proofs.FilePath.Lone
import GuidedShell.Command.External

/-! Command names with a slash in them, and what the search path has to do with them. -/
namespace GuidedShell

open FilePath

namespace World

variable {w : World} {search : Bytes} {p : FilePath} {n : FileName}

/-- A command name with a slash is taken as a path if it has two parts at least or is absolute. A
single part with slashes and dots after it is not, but for a dot that is there. -/
def TakesAsPath (w : World) (p : FilePath) : Prop :=
  ∀ n, IsLone p n → n = FilePath.here ∧ w.exist p

theorem command?_of_takesAsPath (hslash : slash ∈ p) (h : w.TakesAsPath p) :
    w.command? search p = if w.exist p then some p else none := by
  unfold command?
  dsimp only
  by_cases hlone : ∃ n, IsLone p n
  · obtain ⟨n, hn⟩ := hlone
    obtain ⟨rfl, hexist⟩ := h n hn
    rw [hn.isAbsolute_eq, hn.components_eq, if_pos hexist]
    rfl
  · rcases two_le_length_components hslash fun n hn => hlone ⟨n, hn⟩ with habsolute | hlength
    · rw [habsolute]
      rfl
    · split
      · rfl
      · cases hparts : components p with
        | nil => simp [hparts] at hlength
        | cons c cs =>
          cases cs with
          | nil => simp [hparts] at hlength
          | cons d ds => cases c <;> rfl

theorem command?_of_isLone (h : IsLone p n) (hn : ¬(n = FilePath.here ∧ w.exist p)) :
    w.command? search p = w.search? search n := by
  unfold command?
  rw [h.isAbsolute_eq, h.components_eq]
  have hstep := Component.step_ofStep n
  generalize Component.ofStep n = c at hstep
  subst hstep
  cases c with
  | here =>
    have hexist : ¬w.exist p := fun hexist => hn ⟨rfl, hexist⟩
    simp only [Bool.false_eq_true, if_false, hexist]
    rfl
  | parent | name => rfl

/-- What a search finds for such a name is never the name as it was typed. -/
theorem search?_ne_of_isLone (h : IsLone p n) (hn : ¬(n = FilePath.here ∧ w.exist p)) :
    w.search? search n ≠ some p := by
  intro hfound
  obtain ⟨-, dir, -, -, -, hexist, heq⟩ := search?_eq_some_iff.1 hfound
  by_cases hhere : n = FilePath.here
  · exact hn ⟨hhere, heq ▸ hexist⟩
  · exact h.ne_join hhere dir heq.symm

theorem search?_eq_none_iff :
    w.search? search n = none ↔ ∀ dir ∈ searchList search, w.exist (join dir n) = false := by
  unfold search?
  simp

end World

namespace Command.External

variable {s s' : Setting} {name : String}

theorem accept?_of_some {search : String} (h : s.environment.var? s.world "PATH" = some search) :
    accept? s name = s.world.command? (Text.bytes search) (Text.bytes name) := by
  unfold accept?
  rw [h]

theorem accept?_of_none (h : s.environment.var? s.world "PATH" = none) : accept? s name = none := by
  unfold accept?
  rw [h]

/-- Both settings refuse the name, or both accept it as the path that it spells. -/
def AgreeAsTyped (s s' : Setting) (name : String) : Prop :=
  (accept? s name = none ∧ accept? s' name = none) ∨
    (accept? s name = some (Text.bytes name) ∧ accept? s' name = some (Text.bytes name) ∧
      s.world.exist (Text.bytes name))

theorem accept?_of_takesAsPath (hslash : '/' ∈ name.toList)
    (h : s.world.TakesAsPath (Text.bytes name)) :
    accept? s name =
      if (s.environment.var? s.world "PATH").isSome ∧ s.world.exist (Text.bytes name) then
        some (Text.bytes name)
      else none := by
  have hbytes : slash ∈ Text.bytes name := (Text.mem_bytes_iff (by decide)).2 hslash
  cases hpath : s.environment.var? s.world "PATH" with
  | none => simp [accept?_of_none hpath]
  | some search =>
    rw [accept?_of_some hpath, World.command?_of_takesAsPath hbytes h]
    simp

/-- Where a lone name is looked for, it is refused just if no directory of the path has it. What is
accepted is not the name as it was typed. -/
theorem accept?_of_isLone {n : FileName} (h : IsLone (Text.bytes name) n)
    (hn : ¬(n = FilePath.here ∧ s.world.exist (Text.bytes name))) :
    accept? s name ≠ some (Text.bytes name) ∧
      (accept? s name = none ↔ ∀ search, s.environment.var? s.world "PATH" = some search →
        ∀ dir ∈ searchList (Text.bytes search), s.world.exist (join dir n) = false) := by
  cases hpath : s.environment.var? s.world "PATH" with
  | none => simp [accept?_of_none hpath]
  | some search =>
    rw [accept?_of_some hpath, World.command?_of_isLone h hn, World.search?_eq_none_iff]
    refine ⟨World.search?_ne_of_isLone h hn, fun hnone search' heq => ?_, fun hnone => ?_⟩
    · exact Option.some.inj heq ▸ hnone
    · exact hnone search rfl

/-- Two environments in one world, which may differ in their search paths as in anything else, agree
on a command name with a slash in it, and take it as it was typed, in just these cases. A name that
is taken as a path is refused by both if it does not exist, and otherwise it only counts whether
there is any search path in the one as in the other. A single name with slashes and dots after it
has to be missing from every directory of both search paths. -/
theorem agree_on_path_iff (hworld : s'.world = s.world) (hslash : '/' ∈ name.toList) :
    let p := Text.bytes name
    let path := s.environment.var? s.world "PATH"
    let path' := s'.environment.var? s.world "PATH"
    (s.world.TakesAsPath p →
      (AgreeAsTyped s s' name ↔ (s.world.exist p → (path.isSome ↔ path'.isSome)))) ∧
    ∀ n, IsLone p n → ¬(n = FilePath.here ∧ s.world.exist p) →
      (AgreeAsTyped s s' name ↔ ∀ search, path = some search ∨ path' = some search →
        ∀ dir ∈ searchList (Text.bytes search), s.world.exist (join dir n) = false) := by
  intro p path path'
  constructor
  · intro htakes
    have haccept : accept? s name = if path.isSome ∧ s.world.exist p then some p else none :=
      accept?_of_takesAsPath hslash htakes
    have haccept' : accept? s' name = if path'.isSome ∧ s.world.exist p then some p else none := by
      have h := accept?_of_takesAsPath (s := s') hslash (hworld ▸ htakes)
      rw [hworld] at h
      exact h
    unfold AgreeAsTyped
    rw [haccept, haccept']
    by_cases hexist : s.world.exist p
    · have hname : s.world.exist (Text.bytes name) := hexist
      cases path <;> cases path' <;> simp [p, hname]
    · simp [hexist]
  · intro n hlone hn
    obtain ⟨hne, hnone⟩ := accept?_of_isLone (s := s) hlone hn
    obtain ⟨-, hnone'⟩ := accept?_of_isLone (s := s') hlone (hworld ▸ hn)
    rw [hworld] at hnone'
    have hboth : AgreeAsTyped s s' name ↔ accept? s name = none ∧ accept? s' name = none :=
      or_iff_left fun h => hne h.1
    rw [hboth, hnone, hnone']
    constructor
    · rintro ⟨h, h'⟩ search (hpath | hpath')
      · exact h search hpath
      · exact h' search hpath'
    · intro h
      exact ⟨fun search hpath => h search (.inl hpath), fun search hpath => h search (.inr hpath)⟩

/-- A session in the root directory, where there is a program `run` and a directory `bin` with a
program `tool`. -/
def inRoot (vars : Vars) : Setting where
  environment := ⟨vars, [slash], false⟩
  world := ⟨⟨[([Text.bytes "run"], .file 0o755 []), ([Text.bytes "bin"], .directory),
    ([Text.bytes "tool", Text.bytes "bin"], .file 0o755 [])], []⟩, [], [], none⟩
  history := .empty

/-- A path with two parts, and a lone name that no directory of either search path has. -/
theorem agree_on_path_run :
    AgreeAsTyped (inRoot [("PATH", "/bin")]) (inRoot [("PATH", "/")]) "./run" ∧
      AgreeAsTyped (inRoot [("PATH", "/bin")]) (inRoot []) "gone/." := by
  constructor
  · have htakes : (inRoot [("PATH", "/bin")]).world.TakesAsPath (Text.bytes "./run") := by
      intro n h
      have htwo : (components (Text.bytes "./run")).length = 2 := by decide
      rw [h.components_eq] at htwo
      cases htwo
    have hworld : (inRoot [("PATH", "/")]).world = (inRoot [("PATH", "/bin")]).world := rfl
    exact ((agree_on_path_iff hworld (by decide)).1 htakes).2 fun _ => by decide +kernel
  · have hlone : IsLone (Text.bytes "gone/.") (Text.bytes "gone") :=
      ⟨by decide, Text.bytes ".", by decide, by decide⟩
    have hgone : ∀ dir ∈ searchList (Text.bytes "/bin"), (inRoot [("PATH", "/bin")]).world.exist
        (join dir (Text.bytes "gone")) = false := by decide +kernel
    have hworld : (inRoot []).world = (inRoot [("PATH", "/bin")]).world := rfl
    refine ((agree_on_path_iff hworld (by decide)).2 _ hlone (by decide +kernel)).2 ?_
    rintro search (hpath | hpath)
    · cases hpath
      exact hgone
    · cases hpath

/-- What a slash is put after is found along the search path, though the path that this spells leads
nowhere. Without any search path a program is refused that its path leads to. -/
theorem path_not_taken_as_typed :
    (accept? (inRoot [("PATH", "/bin")]) "tool/" = some (Text.bytes "/bin/tool") ∧
      (inRoot [("PATH", "/bin")]).world.exist (Text.bytes "tool/") = false ∧
      ¬AgreeAsTyped (inRoot [("PATH", "/bin")]) (inRoot [("PATH", "/")]) "tool/") ∧
    accept? (inRoot [("PATH", "/bin")]) "./run" = some (Text.bytes "./run") ∧
      ¬AgreeAsTyped (inRoot [("PATH", "/bin")]) (inRoot []) "./run" := by
  have hfound : accept? (inRoot [("PATH", "/bin")]) "tool/" = some (Text.bytes "/bin/tool") := by
    decide +kernel
  have hrun : accept? (inRoot [("PATH", "/bin")]) "./run" = some (Text.bytes "./run") := by
    decide +kernel
  have hrefused : accept? (inRoot []) "./run" = none := by decide +kernel
  refine ⟨⟨hfound, by decide +kernel, ?_⟩, hrun, ?_⟩
  · rintro (⟨hnone, -⟩ | ⟨htyped, -⟩)
    · rw [hfound] at hnone
      cases hnone
    · rw [hfound] at htyped
      exact absurd (Option.some.inj htyped) (by decide)
  · rintro (⟨hnone, -⟩ | ⟨-, htyped, -⟩)
    · rw [hrun] at hnone
      cases hnone
    · rw [hrefused] at htyped
      cases htyped

end Command.External

end GuidedShell
