import GuidedShell.Lookup
import GuidedShell.Proofs.CommandIndex.Scan
import GuidedShell.Proofs.FileSystem.Tree
import GuidedShell.Proofs.Text.Lower

/-! Names that are looked for along a search path, and whether the index of the path holds them. -/
namespace GuidedShell

variable {w : World} {dir p : FilePath} {name : String}

/-- A name that can be looked for along a search path, and that no extension is told from. -/
structure IsBareName (name : String) : Prop where
  nonempty : name ≠ ""
  noSlash : '/' ∉ name.toList
  noDot : '.' ∉ name.toList

namespace IsBareName

theorem isName (h : IsBareName name) : FilePath.IsName (Text.bytes name) where
  nonempty := fun hnil => h.nonempty (Text.bytes_eq_nil_iff.1 hnil)
  noSlash := fun hmem => h.noSlash ((Text.mem_bytes_iff (by decide)).1 hmem)

theorem dot_not_mem (h : IsBareName name) : FilePath.dot ∉ Text.bytes name :=
  fun hmem => h.noDot ((Text.mem_bytes_iff (by decide)).1 hmem)

end IsBareName

theorem CommandIndex.exist_of_isProgram (h : isProgram w p) : w.exist p := by
  obtain ⟨node, hstat, -⟩ := isProgram_iff.1 h
  unfold World.exist FileSystem.exist
  rw [hstat]
  rfl

namespace World

theorem command?_of_isBareName (h : IsBareName name) (search : Bytes) :
    w.command? search (Text.bytes name) = w.search? search (Text.bytes name) := by
  unfold command?
  rw [h.isName.isAbsolute, h.isName.components_eq h.dot_not_mem]
  rfl

/-- The first directory counts that has anything of the name, whatever it is. -/
theorem search?_eq_some_iff {search : Bytes} {n : FileName} : w.search? search n = some p ↔
    ∃ front dir back, FilePath.searchList search = front ++ dir :: back ∧
      (∀ d ∈ front, w.exist (FilePath.join d n) = false) ∧
      w.exist (FilePath.join dir n) ∧ p = FilePath.join dir n := by
  unfold search?
  rw [List.find?_map, Option.map_eq_some_iff]
  simp only [List.find?_eq_some_iff_append, Function.comp_apply]
  constructor
  · rintro ⟨dir, ⟨hexist, front, back, hlist, hfront⟩, rfl⟩
    exact ⟨front, dir, back, hlist, fun d hd => by simpa using hfront d hd, hexist, rfl⟩
  · rintro ⟨front, dir, back, hlist, hfront, hexist, rfl⟩
    exact ⟨dir, ⟨hexist, front, back, hlist, fun d hd => by simpa using hfront d hd⟩, rfl⟩

theorem exist_of_search? {search : Bytes} {n : FileName} (h : w.search? search n = some p) :
    w.exist p := by
  obtain ⟨-, dir, -, -, -, hexist, rfl⟩ := search?_eq_some_iff.1 h
  exact hexist

/-- A command is found by its path, or along the search path. -/
theorem command?_eq_some {search : Bytes} {name : FilePath} (h : w.command? search name = some p) :
    (p = name ∧ w.exist name) ∨
      ∃ c, FilePath.components name = [c] ∧ w.search? search c.step = some p := by
  have hpath (h : (if w.exist name then some name else none) = some p) :
      p = name ∧ w.exist name := by
    split at h
    · rename_i hexist
      exact ⟨(Option.some.inj h).symm, hexist⟩
    · cases h
  unfold command? at h
  dsimp only at h
  split at h
  · exact .inl (hpath h)
  · split at h
    · cases h
    · rename_i hone
      split at h
      · exact .inl (hpath (by rwa [if_pos ‹_›]))
      · exact .inr ⟨.here, hone, h⟩
    · rename_i c hc hone
      exact .inr ⟨c, hone, h⟩
    · exact .inl (hpath h)

theorem exist_of_command? {search : Bytes} {name : FilePath} (h : w.command? search name = some p) :
    w.exist p := by
  rcases command?_eq_some h with ⟨rfl, hexist⟩ | ⟨c, -, hfound⟩
  · exact hexist
  · exact exist_of_search? hfound

/-- A command that is found as a mere name is a dot, or an empty stretch of the search path led to
it. -/
theorem command?_of_noSlash {search : Bytes} {name : FilePath}
    (h : w.command? search name = some p) (hslash : FilePath.slash ∉ p) :
    p = FilePath.here ∨ ∃ front back, FilePath.searchList search = front ++ [] :: back ∧
      ∀ d ∈ front, w.exist (FilePath.join d p) = false := by
  have hsearched (n : FileName) (hn : FilePath.slash ∉ n) (hfound : w.search? search n = some p) :
      ∃ front back, FilePath.searchList search = front ++ [] :: back ∧
        ∀ d ∈ front, w.exist (FilePath.join d p) = false := by
    obtain ⟨front, dir, back, hlist, hfront, -, rfl⟩ := search?_eq_some_iff.1 hfound
    obtain ⟨rfl, hname⟩ := FilePath.eq_of_join_noSlash hslash hn
    rw [hname]
    exact ⟨front, back, hlist, hfront⟩
  rcases command?_eq_some h with ⟨rfl, -⟩ | ⟨c, hone, hfound⟩
  · unfold command? at h
    rw [FilePath.isAbsolute_of_noSlash hslash, FilePath.components_of_noSlash hslash] at h
    by_cases hempty : p = []
    · subst hempty
      cases h
    · have hstep := FilePath.Component.step_ofStep p
      simp only [List.isEmpty_eq_false_iff.2 hempty, Bool.false_eq_true, if_false] at h
      generalize FilePath.Component.ofStep p = c at h hstep
      subst hstep
      cases c with
      | here => exact .inl rfl
      | parent | name => exact .inr (hsearched _ hslash h)
  · have hmem : c ∈ FilePath.components name := by
      rw [hone]
      exact List.mem_singleton_self c
    exact .inr (hsearched c.step (FilePath.slash_not_mem_of_mem_components hmem) hfound)

/-- A directory of the search path has a program of that name, and what directories before it have
under that name are programs, too. -/
def RunsFirst (w : World) (search : Bytes) (n : FileName) : Prop :=
  ∃ front dir back, FilePath.searchList search = front ++ dir :: back ∧
    CommandIndex.isProgram w (FilePath.join dir n) ∧
    ∀ d ∈ front, w.exist (FilePath.join d n) → CommandIndex.isProgram w (FilePath.join d n)

theorem exists_search?_isProgram_iff {search : Bytes} {n : FileName} :
    (∃ p, w.search? search n = some p ∧ CommandIndex.isProgram w p) ↔ w.RunsFirst search n := by
  constructor
  · rintro ⟨p, hsearch, hruns⟩
    obtain ⟨front, dir, back, hlist, hfront, -, rfl⟩ := search?_eq_some_iff.1 hsearch
    refine ⟨front, dir, back, hlist, hruns, fun d hd hexist => ?_⟩
    rw [hfront d hd] at hexist
    cases hexist
  · rintro ⟨front, dir, back, hlist, hruns, hfront⟩
    unfold search?
    rw [hlist]
    clear hlist
    -- The first directory that has anything is one of the front, or the one that has the program.
    induction front with
    | nil =>
      refine ⟨FilePath.join dir n, ?_, hruns⟩
      exact List.find?_cons_of_pos (CommandIndex.exist_of_isProgram hruns)
    | cons d ds ih =>
      cases hexist : w.exist (FilePath.join d n) with
      | true => exact ⟨_, List.find?_cons_of_pos hexist, hfront d List.mem_cons_self hexist⟩
      | false =>
        obtain ⟨p, hfind, hp⟩ := ih fun d' hd' => hfront d' (List.mem_cons_of_mem d hd')
        refine ⟨p, ?_, hp⟩
        rw [List.cons_append, List.map_cons, List.find?_cons_of_neg (by simp [hexist])]
        exact hfind

end World

namespace CommandIndex

/-- Only what an entry of a directory can be called, without a dot, is in the index of a path. -/
theorem isBareName_of_mem_scan (htree : w.files.IsTree) {search : Bytes}
    (h : name ∈ (scan w search []).names) : IsBareName name := by
  obtain ⟨dir, -, file, hserves, rfl⟩ := mem_scan_iff.1 h
  obtain ⟨entries, hlist, hmem⟩ := hserves.listed
  obtain ⟨-, l, -, -, -, rfl⟩ := FileSystem.list_eq_ok_iff.1 hlist
  have hfile := htree.of_mem_names hmem
  constructor
  · refine Text.lower_ne_empty fun hempty => ?_
    exact hfile.nonempty (Text.bytes_eq_nil_iff.2 hempty)
  · intro hslash
    have hspelled := Text.mem_of_mem_lower (by decide) (by decide) hslash
    exact hfile.noSlash ((Text.mem_bytes_iff (by decide)).2 hspelled)
  · exact fun hdot => hserves.undotted (Text.mem_of_mem_lower (by decide) (by decide) hdot)

theorem serves_of_isProgram (htree : w.files.IsTree) (hdir : dir ≠ []) (h : IsBareName name)
    (hruns : isProgram w (FilePath.join dir (Text.bytes name)))
    (hread : w.files.allows w.here dir .read = true) : Serves w dir name where
  listed := by
    obtain ⟨node, hstat, -⟩ := isProgram_iff.1 hruns
    exact htree.list_of_stat_join hdir h.isName h.dot_not_mem hstat hread
  undotted := h.noDot
  runs := hruns

theorem Serves.dir_ne_nil (h : Serves w dir name) : dir ≠ [] := by
  rintro rfl
  obtain ⟨entries, hlist, -⟩ := h.listed
  obtain ⟨-, l, hreach, -⟩ := FileSystem.list_eq_ok_iff.1 hlist
  exact (FileSystem.reach_eq_ok_iff.1 hreach).1 rfl

theorem Serves.allows (h : Serves w dir name) : w.files.allows w.here dir .read = true := by
  obtain ⟨entries, hlist, -⟩ := h.listed
  exact FileSystem.allows_of_list hlist

/-- A program that is found under a bare name is in the index, with two exceptions. The stretch of the
search path that led to it may be empty: then it stands for the working directory when a name is
looked for, but cannot be listed. Or it names a directory in which names can be looked for, but which
may not be read. Then the index holds the name just if another directory that the search path names,
and that may be read, has a program of that name, in any case of letters. -/
theorem holds_of_found_iff (htree : w.files.IsTree) {search : Bytes} (h : IsBareName name)
    (hfound : w.command? search (Text.bytes name) = some p) (hruns : isProgram w p) :
    ∃ front dir back, FilePath.searchList search = front ++ dir :: back ∧
      (∀ d ∈ front, w.exist (FilePath.join d (Text.bytes name)) = false) ∧
      p = FilePath.join dir (Text.bytes name) ∧
      ((scan w search []).holds name ↔
        (dir ≠ [] ∧ w.files.allows w.here dir .read = true) ∨
          ∃ other ∈ FilePath.searchList search, other ≠ dir ∧
            ∃ file, Serves w other file ∧ Text.lower file = Text.lower name) := by
  rw [World.command?_of_isBareName h] at hfound
  obtain ⟨front, dir, back, hlist, hfront, -, rfl⟩ := World.search?_eq_some_iff.1 hfound
  have hmem : dir ∈ FilePath.searchList search := by
    rw [hlist]
    exact List.mem_append_right _ List.mem_cons_self
  refine ⟨front, dir, back, hlist, hfront, rfl, ?_⟩
  rw [holds_scan_iff]
  constructor
  · rintro ⟨other, hother, file, hserves, hlower⟩
    by_cases heq : other = dir
    · subst heq
      exact .inl ⟨hserves.dir_ne_nil, hserves.allows⟩
    · exact .inr ⟨other, hother, heq, file, hserves, hlower⟩
  · rintro (⟨hdir, hread⟩ | ⟨other, hother, -, hfile⟩)
    · exact ⟨dir, hmem, name, serves_of_isProgram htree hdir h hruns hread, rfl⟩
    · exact ⟨other, hother, hfile⟩

/-- A tree with a program in its root and one in a directory that may be searched but not read. -/
def twoTools : World where
  files := {
    entries := [([Text.bytes "bin"], .directory), ([Text.bytes "tool"], .file 0o755 []),
      ([Text.bytes "open"], .directory), ([Text.bytes "tool", Text.bytes "bin"], .file 0o755 []),
      ([Text.bytes "Tool", Text.bytes "open"], .file 0o755 [])]
    refused := [([Text.bytes "bin"], .read)] }
  here := []
  vars := []
  home? := none

/-- What a directory hides that may not be read, another directory offers, if only in another
spelling. -/
theorem holds_of_found_hidden :
    isProgram twoTools (Text.bytes "/bin/tool") ∧
      (scan twoTools (Text.bytes "/bin") []).holds "tool" = false ∧
      (scan twoTools (Text.bytes "/bin:/open") []).holds "tool" := by
  have hruns : isProgram twoTools (Text.bytes "/bin/tool") := by decide +kernel
  have hfound : twoTools.command? (Text.bytes "/bin:/open") (Text.bytes "tool") =
      some (Text.bytes "/bin/tool") := by decide +kernel
  obtain ⟨front, dir, back, hlist, -, hjoin, hiff⟩ := holds_of_found_iff (by decide +kernel)
    ⟨by decide, by decide, by decide⟩ hfound hruns
  refine ⟨hruns, by decide +kernel, hiff.2 (.inr ⟨Text.bytes "/open", by decide +kernel, ?_, "Tool",
    ?_, by decide +kernel⟩)⟩
  · rintro rfl
    revert hjoin
    decide +kernel
  · exact ⟨⟨_, rfl, by decide +kernel⟩, by decide +kernel, by decide +kernel⟩

/-- A program of the working directory is found by the empty end of a search path, and is not in the
index. -/
theorem not_holds_of_found_empty :
    twoTools.files.IsTree ∧ IsBareName "tool" ∧
      twoTools.command? (Text.bytes "/dev:") (Text.bytes "tool") = some (Text.bytes "tool") ∧
      isProgram twoTools (Text.bytes "tool") ∧
      (scan twoTools (Text.bytes "/dev:") []).holds "tool" = false :=
  ⟨by decide +kernel, ⟨by decide, by decide, by decide⟩, by decide +kernel, by decide +kernel,
    by decide +kernel⟩

end CommandIndex

end GuidedShell
