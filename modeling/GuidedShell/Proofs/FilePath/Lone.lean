import GuidedShell.Proofs.FilePath.Join

/-! Paths that have a slash in them and only one part all the same. Slashes and dots at the end of a
path are no parts of it. -/
namespace GuidedShell.FilePath

/-- The path is this name with slashes and dots after it. -/
structure IsLone (p : FilePath) (n : FileName) : Prop where
  isName : IsName n
  trail : ∃ rest, p = n ++ slash :: rest ∧ ∀ s ∈ pieces (· == slash) rest, s = [] ∨ s = here

variable {p dir : FilePath} {n : FileName}

theorem exists_first (h : slash ∈ p) :
    ∃ first rest, p = first ++ slash :: rest ∧ slash ∉ first := List.eq_append_cons_of_mem h

theorem pieces_first (hn : slash ∉ n) (rest : FilePath) :
    pieces (· == slash) (n ++ slash :: rest) = n :: pieces (· == slash) rest := by
  rw [pieces_append (by rfl), pieces_of_noSlash hn]
  rfl

namespace IsName

/-- What stands before the first slash of a relative path is its first part. -/
theorem components_append (h : IsName n) (rest : FilePath) :
    components (n ++ slash :: rest) = Component.ofStep n ::
      ((pieces (· == slash) rest).filter fun s => !s.isEmpty && s != here).map
        Component.ofStep := by
  unfold components
  rw [pieces_first h.noSlash]
  simp [h.nonempty]

theorem isAbsolute_append (h : IsName n) (rest : FilePath) :
    FilePath.isAbsolute (n ++ slash :: rest) = false := by
  obtain ⟨b, bs, rfl⟩ := List.exists_cons_of_ne_nil h.nonempty
  have hb : b ≠ slash := fun heq => h.noSlash (heq ▸ List.mem_cons_self)
  simpa [FilePath.isAbsolute] using hb

end IsName

namespace IsLone

theorem isAbsolute_eq (h : IsLone p n) : isAbsolute p = false := by
  obtain ⟨rest, rfl, -⟩ := h.trail
  exact h.isName.isAbsolute_append rest

theorem components_eq (h : IsLone p n) : components p = [Component.ofStep n] := by
  obtain ⟨rest, rfl, hrest⟩ := h.trail
  have hnone : (pieces (· == slash) rest).filter (fun s => !s.isEmpty && s != here) = [] := by
    rw [List.filter_eq_nil_iff]
    intro s hs
    rcases hrest s hs with rfl | rfl <;> simp
  rw [h.isName.components_append, hnone]
  rfl

/-- An entry of a directory ends in its name, and such a path ends in a slash or a dot. -/
theorem ne_join (h : IsLone p n) (hn : n ≠ here) (dir : FilePath) : join dir n ≠ p := by
  obtain ⟨rest, rfl, hrest⟩ := h.trail
  intro heq
  by_cases hdir : dir = []
  · subst hdir
    rw [nil_join] at heq
    exact h.isName.noSlash (heq ▸ List.mem_append_right n List.mem_cons_self)
  · obtain ⟨front, hjoin, -, -⟩ := exists_join_eq hdir h.isName.isAbsolute
    have hpieces : pieces (· == slash) front ++ [n] = n :: pieces (· == slash) rest := by
      rw [← pieces_first h.isName.noSlash, ← heq, hjoin, pieces_append (by rfl),
        h.isName.pieces_eq]
    have hlast : n ∈ pieces (· == slash) rest := by
      have hmem := congrArg List.getLast? hpieces
      obtain ⟨s, ss, hcons⟩ := List.exists_cons_of_ne_nil (pieces_ne_nil (· == slash) rest)
      rw [hcons, List.getLast?_append, List.getLast?_cons_cons] at hmem
      rw [hcons]
      exact List.mem_of_getLast? hmem.symm
    rcases hrest n hlast with hnil | hhere
    · exact h.isName.nonempty hnil
    · exact hn hhere

end IsLone

/-- Any other path with a slash is absolute or has two parts at least. -/
theorem two_le_length_components (hslash : slash ∈ p) (h : ∀ n, ¬IsLone p n) :
    isAbsolute p = true ∨ 2 ≤ (components p).length := by
  obtain ⟨n, rest, rfl, hn⟩ := exists_first hslash
  by_cases hempty : n = []
  · subst hempty
    exact .inl rfl
  · right
    have hname : IsName n := ⟨hempty, hn⟩
    have hmore : ¬∀ s ∈ pieces (· == slash) rest, s = [] ∨ s = here := fun hrest =>
      h n ⟨hname, rest, rfl, hrest⟩
    obtain ⟨s, hpiece⟩ := Classical.not_forall.1 hmore
    obtain ⟨hs, hout⟩ := Classical.not_imp.1 hpiece
    obtain ⟨hne, hhere⟩ := not_or.1 hout
    have hmem : s ∈ (pieces (· == slash) rest).filter fun s => !s.isEmpty && s != here :=
      List.mem_filter.2 ⟨hs, by simp [hne, hhere]⟩
    have hpos := List.length_pos_of_mem hmem
    rw [hname.components_append, List.length_cons, List.length_map]
    omega

end GuidedShell.FilePath
