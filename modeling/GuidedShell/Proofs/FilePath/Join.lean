import GuidedShell.FilePath.Basic
import GuidedShell.Proofs.Text.Pieces

/-! The steps of a path that is taken relative to a directory are those to the directory and its own. -/
namespace GuidedShell.FilePath

/-- A name that an entry of a directory can have. -/
structure IsName (n : FileName) : Prop where
  nonempty : n ≠ []
  noSlash : slash ∉ n

instance (n : FileName) : Decidable (IsName n) :=
  decidable_of_iff (n ≠ [] ∧ slash ∉ n) ⟨fun h => ⟨h.1, h.2⟩, fun h => ⟨h.nonempty, h.noSlash⟩⟩

/-- The names between the slashes of a path. -/
def parts (p : FilePath) : List FileName := (pieces (· == slash) p).filter (!·.isEmpty)

theorem steps_eq (p : FilePath) :
    steps p = parts p ++ if p.getLast? = some slash then [stay] else [] := by
  simp only [steps, parts, beq_iff_eq]

theorem parts_append (front back : FilePath) :
    parts (front ++ slash :: back) = parts front ++ parts back := by
  unfold parts
  rw [pieces_append (by rfl), List.filter_append]

/-- Every path but the empty one has steps to take. -/
theorem steps_ne_nil {p : FilePath} (hp : p ≠ []) : steps p ≠ [] := by
  rw [steps_eq]
  split
  · simp
  · rename_i hlast
    obtain ⟨front, b, rfl⟩ : ∃ front b, p = front ++ [b] :=
      ⟨_, _, (List.dropLast_concat_getLast hp).symm⟩
    have hb : (b == slash) = false := by simpa using hlast
    obtain ⟨before, last, hfront⟩ := exists_pieces_eq_concat (· == slash) front
    have hback : pieces (· == slash) [b] = [[b]] := pieces_of_forall (by simpa using hb)
    have hmem : last ++ [b] ∈ parts (front ++ [b]) := by
      unfold parts
      rw [pieces_append_of_last hfront hback]
      simp
    rw [List.append_nil]
    exact List.ne_nil_of_mem hmem

theorem slash_not_mem_of_mem_steps {p : FilePath} {s : FileName} (h : s ∈ steps p) :
    slash ∉ s := by
  rw [steps_eq] at h
  rcases List.mem_append.1 h with h | h
  · intro hslash
    simpa using not_sep_of_mem_pieces _ _ s (List.mem_filter.1 h).1 _ hslash
  · split at h
    · rw [List.mem_singleton.1 h]
      exact List.not_mem_nil
    · cases h

variable {dir : FilePath} {n : FileName}

theorem pieces_of_noSlash {p : FilePath} (h : slash ∉ p) : pieces (· == slash) p = [p] := by
  refine pieces_of_forall fun b hb => ?_
  have hne : b ≠ slash := fun heq => h (heq ▸ hb)
  simpa using hne

theorem Component.step_ofStep (s : FileName) : (Component.ofStep s).step = s := by
  unfold ofStep
  split
  · rename_i h
    exact (eq_of_beq h).symm
  · split
    · rename_i h
      exact (eq_of_beq h).symm
    · rfl

theorem components_of_noSlash {p : FilePath} (h : slash ∉ p) :
    components p = if p.isEmpty then [] else [Component.ofStep p] := by
  unfold components
  rw [pieces_of_noSlash h]
  dsimp only
  split <;> rfl

/-- No part of a path has a slash in it. -/
theorem slash_not_mem_of_mem_components {p : FilePath} {c : Component} (h : c ∈ components p) :
    slash ∉ c.step := by
  have hpieces (s : FileName) (hs : s ∈ pieces (· == slash) p) : slash ∉ s := fun hslash => by
    simpa using not_sep_of_mem_pieces _ _ s hs _ hslash
  unfold components at h
  obtain ⟨first, rest, hp⟩ := List.exists_cons_of_ne_nil (pieces_ne_nil (· == slash) p)
  rw [hp] at h hpieces
  dsimp only at h
  obtain ⟨s, hs, rfl⟩ := List.mem_map.1 h
  rw [Component.step_ofStep]
  rcases List.mem_append.1 hs with hs | hs
  · split at hs
    · cases hs
    · exact hpieces s (List.mem_singleton.1 hs ▸ List.mem_cons_self)
  · exact hpieces s (List.mem_cons_of_mem _ (List.mem_filter.1 hs).1)

theorem isAbsolute_of_noSlash {p : FilePath} (h : slash ∉ p) : isAbsolute p = false := by
  cases p with
  | nil => rfl
  | cons b bs =>
    have hb : b ≠ slash := fun heq => h (heq ▸ List.mem_cons_self)
    simpa [isAbsolute] using hb

/-- A path without a slash was joined to nothing. -/
theorem eq_of_join_noSlash {base n : FilePath} (h : slash ∉ join base n) (hn : slash ∉ n) :
    base = [] ∧ join base n = n := by
  unfold join at h ⊢
  rw [if_neg (by simp [isAbsolute_of_noSlash hn])] at h ⊢
  by_cases hempty : base = []
  · subst hempty
    exact ⟨rfl, rfl⟩
  · exfalso
    split at h
    · rename_i hend
      have hlast : base.getLast? = some slash := by simpa [hempty] using hend
      exact h (List.mem_append_left _ (List.mem_of_getLast? hlast))
    · exact h (List.mem_append_right _ List.mem_cons_self)

namespace IsName

theorem pieces_eq (h : IsName n) : pieces (· == slash) n = [n] := pieces_of_noSlash h.noSlash

theorem parts_eq (h : IsName n) : parts n = [n] := by
  unfold parts
  rw [h.pieces_eq]
  simp [h.nonempty]

theorem isAbsolute (h : IsName n) : isAbsolute n = false := isAbsolute_of_noSlash h.noSlash

theorem getLast?_ne (h : IsName n) (front : FilePath) : (front ++ n).getLast? ≠ some slash := by
  intro hlast
  rw [List.getLast?_append, List.getLast?_eq_some_getLast h.nonempty, Option.some_or] at hlast
  exact h.noSlash (Option.some.inj hlast ▸ List.getLast_mem h.nonempty)

theorem steps_eq (h : IsName n) : steps n = [n] := by
  have hlast : n.getLast? ≠ some slash := h.getLast?_ne []
  rw [FilePath.steps_eq, if_neg hlast, h.parts_eq, List.append_nil]

/-- A name without dots stands for itself alone. -/
theorem components_eq (h : IsName n) (hdot : dot ∉ n) : components n = [.name n] := by
  have hhere : (n == here) = false := by
    refine beq_eq_false_iff_ne.2 fun heq => hdot ?_
    rw [heq]
    exact List.mem_cons_self
  have hparent : (n == parent) = false := by
    refine beq_eq_false_iff_ne.2 fun heq => hdot ?_
    rw [heq]
    exact List.mem_cons_self
  unfold components
  rw [h.pieces_eq]
  simp [h.nonempty, Component.ofStep, hhere, hparent]

end IsName

theorem nil_join (p : FilePath) : join [] p = p := by
  unfold join
  split <;> rfl

theorem mem_of_mem_join {p : FilePath} {b : UInt8} (h : b ∈ join dir p) :
    b ∈ dir ∨ b = slash ∨ b ∈ p := by
  unfold join at h
  split at h
  · exact .inr (.inr h)
  · split at h
    · rcases List.mem_append.1 h with h | h
      · exact .inl h
      · exact .inr (.inr h)
    · rcases List.mem_append.1 h with h | h
      · exact .inl h
      · exact .inr (List.mem_cons.1 h)

theorem prefix_join (h : IsName n) : dir <+: join dir n := by
  unfold join
  rw [if_neg (by simp [h.isAbsolute])]
  split
  · exact List.prefix_append dir n
  · exact List.prefix_append dir (slash :: n)

/-- A relative path is written after its directory and a slash, unless there is one. -/
theorem exists_join_eq {p : FilePath} (hdir : dir ≠ []) (hp : isAbsolute p = false) :
    ∃ front, join dir p = front ++ slash :: p ∧ parts front = parts dir ∧
      isAbsolute (join dir p) = isAbsolute dir := by
  obtain ⟨b, bs, rfl⟩ := List.exists_cons_of_ne_nil hdir
  unfold join
  rw [if_neg (by simp [hp])]
  by_cases hlast : (b :: bs).getLast? = some slash
  · obtain ⟨front, hfront⟩ := List.getLast?_eq_some_iff.1 hlast
    refine ⟨front, ?_, ?_, ?_⟩
    · simp [hfront]
    · rw [hfront, parts_append]
      exact (List.append_nil _).symm
    · simp [hlast, isAbsolute]
  · refine ⟨b :: bs, ?_, rfl, ?_⟩
    · simp [hlast]
    · simp [hlast, isAbsolute]

/-- What a path ends with decides whether it asks for a directory. -/
theorem steps_append (front : FilePath) {back : FilePath} (hback : back ≠ []) :
    steps (front ++ slash :: back) = parts front ++ steps back := by
  have hlast : (front ++ slash :: back).getLast? = back.getLast? := by
    obtain ⟨b, bs, rfl⟩ := List.exists_cons_of_ne_nil hback
    rw [List.getLast?_append, List.getLast?_cons_cons, List.getLast?_cons, Option.some_or]
  rw [steps_eq, steps_eq, hlast, parts_append, List.append_assoc]

theorem steps_join {p : FilePath} (hdir : dir ≠ []) (hp : p ≠ []) (hrelative : isAbsolute p = false) :
    steps (join dir p) = parts dir ++ steps p := by
  obtain ⟨front, hjoin, hparts, -⟩ := exists_join_eq hdir hrelative
  rw [hjoin, steps_append front hp, hparts]

theorem parts_join {p : FilePath} (hdir : dir ≠ []) (hrelative : isAbsolute p = false) :
    parts (join dir p) = parts dir ++ parts p := by
  obtain ⟨front, hjoin, hparts, -⟩ := exists_join_eq hdir hrelative
  rw [hjoin, parts_append, hparts]

/-- A path in two parts has the steps of the first, as far as they are names, and then the others. -/
theorem steps_join_append {p q : FilePath} (hdir : dir ≠ []) (hp : p ≠ []) (hq : q ≠ []) :
    steps (join dir (p ++ slash :: q)) = parts (join dir p) ++ steps q := by
  have habsolute : isAbsolute (p ++ slash :: q) = isAbsolute p := by
    obtain ⟨b, bs, rfl⟩ := List.exists_cons_of_ne_nil hp
    rfl
  cases hcase : isAbsolute p with
  | true =>
    have hwhole : join dir (p ++ slash :: q) = p ++ slash :: q := by simp [join, habsolute, hcase]
    have hfirst : join dir p = p := by simp [join, hcase]
    rw [hwhole, hfirst, steps_append p hq]
  | false =>
    rw [steps_join hdir (by simp) (habsolute.trans hcase), parts_join hdir hcase, steps_append p hq,
      List.append_assoc]

end GuidedShell.FilePath
