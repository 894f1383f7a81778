import GuidedShell.Proofs.CommandIndex.Ascending
import GuidedShell.Proofs.Text.Bytes

/-! Which names an index holds: those of the programs that can be listed, in lower case. -/
namespace GuidedShell.CommandIndex

theorem mem_insertAll {x : String} {names found : List String} :
    x ∈ insertAll names found ↔ x ∈ names ∨ x ∈ found := by
  unfold insertAll
  induction found generalizing names with
  | nil => simp
  | cons n ns ih =>
    rw [List.foldl_cons, ih, mem_insertName, List.mem_cons, or_comm (a := x = n), or_assoc]

theorem isProgram_iff {w : World} {p : FilePath} :
    isProgram w p ↔ ∃ node, w.files.stat w.here p = .ok node ∧ node.isProgram := by
  unfold isProgram
  cases w.files.stat w.here p with
  | error fault => simp
  | ok node => simp

/-- The directory lists a program of this very name. A name with a dot in it counts for none. -/
structure Serves (w : World) (dir : FilePath) (file : String) : Prop where
  listed : ∃ entries, w.files.list w.here dir = .ok entries ∧ Text.bytes file ∈ entries
  undotted : '.' ∉ file.toList
  runs : isProgram w (FilePath.join dir (Text.bytes file))

variable {w : World} {dir : FilePath} {name : String} {search : Bytes}

theorem plainCommand?_eq_some_iff {file : String} {executable : Bool} :
    plainCommand? file executable = some name ↔
      '.' ∉ file.toList ∧ executable ∧ Text.lower file = name := by
  unfold plainCommand?
  by_cases hdot : '.' ∈ file.toList
  · simp [hdot]
  · cases executable with
    | false => simp
    | true => simp [hdot]

theorem command?_eq_some_iff {f : FileName} : command? w [] dir f = some name ↔
    ∃ file, Text.bytes file = f ∧ '.' ∉ file.toList ∧ isProgram w (FilePath.join dir f) ∧
      Text.lower file = name := by
  unfold command?
  simp only [bind, Option.bind_eq_some_iff, Text.ofBytes?_eq_some_iff, List.isEmpty_nil, if_true,
    plainCommand?_eq_some_iff]

theorem mem_commandsIn_iff :
    name ∈ commandsIn w [] dir ↔ ∃ file, Serves w dir file ∧ Text.lower file = name := by
  unfold commandsIn
  cases hlist : w.files.list w.here dir with
  | error fault =>
    simp only [List.not_mem_nil, false_iff, not_exists, not_and]
    intro file h
    obtain ⟨entries, hok, -⟩ := h.listed
    rw [hlist] at hok
    cases hok
  | ok entries =>
    simp only [List.mem_filterMap, command?_eq_some_iff]
    constructor
    · rintro ⟨f, hmem, file, rfl, hdot, hruns, hlower⟩
      exact ⟨file, ⟨⟨entries, hlist, hmem⟩, hdot, hruns⟩, hlower⟩
    · rintro ⟨file, h, hlower⟩
      obtain ⟨entries', hok, hmem⟩ := h.listed
      rw [hlist] at hok
      cases hok
      exact ⟨_, hmem, file, rfl, h.undotted, h.runs, hlower⟩

theorem mem_scan_iff : name ∈ (scan w search []).names ↔
    ∃ dir ∈ FilePath.searchList search, ∃ file, Serves w dir file ∧
      Text.lower file = name := by
  unfold scan
  rw [mem_insertAll]
  simp only [List.not_mem_nil, false_or, List.mem_flatMap, mem_commandsIn_iff]

theorem holds_scan_iff : (scan w search []).holds name ↔
    ∃ dir ∈ FilePath.searchList search, ∃ file, Serves w dir file ∧
      Text.lower file = Text.lower name := by
  unfold holds scan
  rw [bisect_iff_mem (ascending_insertAll .nil _), ← mem_scan_iff]
  rfl

end GuidedShell.CommandIndex
