import GuidedShell.Proofs.CommandIndex.Known
import GuidedShell.Proofs.Text.Capitals
import Mathlib.Data.List.Sort

/-! An index has exactly the names of the programs on its search path. What the index is asked for is
looked up in lower case, and its names are in lower case already. -/
namespace GuidedShell.CommandIndex

variable {w : World} {search search' : Bytes} {extensions : List String} {index : CommandIndex}

/-- A directory of the search path lists a file of this name without a dot, and what the name leads
to there, through links, is a regular file that somebody may execute. -/
def Offers (w : World) (search : Bytes) (file : String) : Prop :=
  ∃ dir ∈ FilePath.searchList search, ∃ entries,
    w.files.list w.here dir = .ok entries ∧ Text.bytes file ∈ entries ∧ '.' ∉ file.toList ∧
    ∃ mode content, w.files.stat w.here (FilePath.join dir (Text.bytes file)) =
      .ok (.file mode content) ∧ mode &&& 0o111 ≠ 0

/-- The directories that can be listed are the same in both search paths. Their order, how often each
of them comes and the directories that cannot be listed are free. -/
def SameDirectories (w : World) (search search' : Bytes) : Prop :=
  ∀ dir entries, w.files.list w.here dir = .ok entries →
    (dir ∈ FilePath.searchList search ↔
      dir ∈ FilePath.searchList search')

theorem node_isProgram_iff {node : Node} :
    node.isProgram ↔ ∃ mode content, node = .file mode content ∧ mode &&& 0o111 ≠ 0 := by
  cases node with
  | file mode content => simp [Node.isProgram]
  | directory => simp [Node.isProgram]
  | link target => simp [Node.isProgram]
  | device d => simp [Node.isProgram]

theorem offers_iff {file : String} : Offers w search file ↔
    ∃ dir ∈ FilePath.searchList search, Serves w dir file := by
  constructor
  · rintro ⟨dir, hdir, entries, hlist, hmem, hdot, mode, content, hstat, hmode⟩
    have hnode : (Node.file mode content).isProgram := node_isProgram_iff.2 ⟨_, _, rfl, hmode⟩
    exact ⟨dir, hdir, ⟨entries, hlist, hmem⟩, hdot, isProgram_iff.2 ⟨_, hstat, hnode⟩⟩
  · rintro ⟨dir, hdir, ⟨entries, hlist, hmem⟩, hdot, hruns⟩
    obtain ⟨node, hstat, hnode⟩ := isProgram_iff.1 hruns
    obtain ⟨mode, content, rfl, hmode⟩ := node_isProgram_iff.1 hnode
    exact ⟨dir, hdir, entries, hlist, hmem, hdot, mode, content, hstat, hmode⟩

theorem mem_scan_iff_offers {n : String} :
    n ∈ (scan w search []).names ↔ ∃ file, Offers w search file ∧ Text.lower file = n := by
  rw [mem_scan_iff]
  constructor
  · rintro ⟨dir, hdir, file, hserves, hlower⟩
    exact ⟨file, offers_iff.2 ⟨dir, hdir, hserves⟩, hlower⟩
  · rintro ⟨file, hoffers, hlower⟩
    obtain ⟨dir, hdir, hserves⟩ := offers_iff.1 hoffers
    exact ⟨dir, hdir, file, hserves, hlower⟩

theorem SameDirectories.mem_flatMap_commandsIn (h : SameDirectories w search search') {n : String}
    (hn : n ∈ (FilePath.searchList search).flatMap (commandsIn w extensions)) :
    n ∈ (FilePath.searchList search').flatMap (commandsIn w extensions) := by
  obtain ⟨dir, hdir, hmem⟩ := List.mem_flatMap.1 hn
  cases hlist : w.files.list w.here dir with
  | ok entries => exact List.mem_flatMap.2 ⟨dir, (h dir entries hlist).1 hdir, hmem⟩
  | error fault => simp [commandsIn, hlist] at hmem

theorem SameDirectories.symm (h : SameDirectories w search search') :
    SameDirectories w search' search :=
  fun dir entries hlist => (h dir entries hlist).symm

/-- Two ascending lists with the same members are equal. -/
theorem SameDirectories.scan_eq (h : SameDirectories w search search') :
    scan w search extensions = scan w search' extensions := by
  have hmem (n : String) : n ∈ (scan w search extensions).names ↔
      n ∈ (scan w search' extensions).names := by
    unfold scan
    rw [mem_insertAll, mem_insertAll]
    simp only [List.not_mem_nil, false_or]
    exact ⟨h.mem_flatMap_commandsIn, h.symm.mem_flatMap_commandsIn⟩
  have hascending (search : Bytes) := (Made.scan w search extensions).ascending
  exact congrArg CommandIndex.mk
    ((hascending search).eq_of_mem_iff (hascending search') hmem)

theorem lower_of_command? {dir : FilePath} {f : FileName} {n : String}
    (h : command? w extensions dir f = some n) : Text.lower n = n := by
  obtain ⟨name, -, hname⟩ := Option.bind_eq_some_iff.1 h
  split at hname
  · obtain ⟨-, -, rfl⟩ := plainCommand?_eq_some_iff.1 hname
    exact Text.lower_lower name
  · unfold extendedCommand? at hname
    split at hname
    · obtain ⟨stem, -, rfl⟩ := Option.map_eq_some_iff.1 hname
      exact Text.lower_lower stem
    · cases hname

/-- The names of an index are in lower case. -/
theorem Made.lower_of_mem (h : index.Made) {n : String} (hn : n ∈ index.names) :
    Text.lower n = n := by
  cases h with
  | scan w search extensions =>
    unfold CommandIndex.scan at hn
    obtain ⟨dir, -, hmem⟩ := List.mem_flatMap.1 ((mem_insertAll.1 hn).resolve_left List.not_mem_nil)
    unfold commandsIn at hmem
    split at hmem
    · obtain ⟨f, -, hf⟩ := List.mem_filterMap.1 hmem
      exact lower_of_command? hf
    · cases hmem
  | ofNames names =>
    unfold CommandIndex.ofNames at hn
    obtain ⟨name, -, rfl⟩ := List.mem_map.1 ((mem_insertAll.1 hn).resolve_left List.not_mem_nil)
    exact Text.lower_lower name

theorem Made.holds_iff (h : index.Made) {s : String} :
    index.holds s ↔ Text.lower s ∈ index.names :=
  bisect_iff_mem h.ascending

theorem mem_ofNames_iff {n : String} {given : List String} :
    n ∈ (ofNames given).names ↔ ∃ name ∈ given, Text.lower name = n := by
  unfold ofNames
  rw [mem_insertAll]
  simp

/-- An index that is made without extensions has, in order, the names of the programs that the
directories of its search path offer, whatever else is in the search path. Any index holds a text
just if it has it in lower case, and so holds its own names and those it was given. -/
theorem scan_has_offered (w : World) (search : Bytes) :
    (scan w search []).names.Pairwise (· < ·) ∧
      (∀ n, n ∈ (scan w search []).names ↔ ∃ file, Offers w search file ∧ Text.lower file = n) ∧
      (∀ search', SameDirectories w search search' → scan w search [] = scan w search' []) ∧
      (∀ {index}, Made index → (∀ s, index.holds s ↔ Text.lower s ∈ index.names) ∧
        ∀ n ∈ index.names, index.holds n) ∧
      ∀ given, ∀ name ∈ given, (ofNames given).holds name := by
  refine ⟨(Made.scan w search []).ascending, fun n => mem_scan_iff_offers,
    fun search' h => h.scan_eq, fun hmade => ⟨fun s => hmade.holds_iff, fun n hn => ?_⟩,
    fun given name hname => ?_⟩
  · rw [hmade.holds_iff, hmade.lower_of_mem hn]
    exact hn
  · exact (Made.ofNames given).holds_iff.2 (mem_ofNames_iff.2 ⟨name, hname, rfl⟩)

/-- A directory that comes twice and one that is missing offer nothing more than the directory once,
and a program behind a link is offered by the name of the link. -/
theorem scan_has_offered_twice :
    let w : World := ⟨⟨[([Text.bytes "bin"], .directory),
      ([Text.bytes "Git", Text.bytes "bin"], .link (Text.bytes "git-2")),
      ([Text.bytes "git-2", Text.bytes "bin"], .file 0o755 []),
      ([Text.bytes "notes", Text.bytes "bin"], .file 0o644 [])], []⟩, [], [], none⟩
    let twice := scan w (Text.bytes "/bin:/gone:/bin") []
    twice = scan w (Text.bytes "/bin") [] ∧ twice.names = ["git", "git-2"] ∧
      ∀ n ∈ ["git", "git-2"], (∃ file, Offers w (Text.bytes "/bin") file ∧ Text.lower file = n) ∧
        twice.holds n := by
  intro w twice
  obtain ⟨-, hnames, hsame, hholds, -⟩ := scan_has_offered w (Text.bytes "/bin")
  have hlist : w.files.list w.here (Text.bytes "/gone") = .error .notFound := by decide +kernel
  have hfolders : FilePath.searchList (Text.bytes "/bin:/gone:/bin") =
      [Text.bytes "/bin", Text.bytes "/gone", Text.bytes "/bin"] := by decide +kernel
  have honce : FilePath.searchList (Text.bytes "/bin") = [Text.bytes "/bin"] := by decide +kernel
  have heq : scan w (Text.bytes "/bin") [] = twice := by
    refine hsame _ fun dir entries hok => ?_
    rw [hfolders, honce]
    simp only [List.mem_cons, List.not_mem_nil, or_false]
    refine ⟨.inl, ?_⟩
    rintro (rfl | rfl | rfl)
    · rfl
    · rw [hlist] at hok
      cases hok
    · rfl
  have hlisted : (scan w (Text.bytes "/bin") []).names = ["git", "git-2"] := by decide +kernel
  refine ⟨heq.symm, heq ▸ hlisted, fun n hn => ?_⟩
  rw [← hlisted] at hn
  rw [← heq]
  exact ⟨(hnames n).1 hn, (hholds (.scan w _ [])).2 n hn⟩

end GuidedShell.CommandIndex
