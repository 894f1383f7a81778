import GuidedShell.Proofs.Text.Pieces
import GuidedShell.Text
import Mathlib.Data.List.DropRight

/-! Trimming takes away nothing but blanks, and once is enough. What has no blanks is one word. -/
namespace GuidedShell

namespace Chars

theorem trim_eq_rdropWhile (cs : List Char) :
    trim cs = (cs.dropWhile isBlank).rdropWhile isBlank := rfl

theorem trim_sublist (cs : List Char) : (trim cs).Sublist cs := by
  rw [trim_eq_rdropWhile]
  exact (List.rdropWhile_prefix isBlank _).sublist.trans (List.dropWhile_sublist isBlank)

/-- Cutting blanks off the end leaves a text that begins with no blank as it begins. -/
theorem dropWhile_trim (cs : List Char) : (trim cs).dropWhile isBlank = trim cs := by
  obtain ⟨rest, hrest⟩ : trim cs <+: cs.dropWhile isBlank := by
    rw [trim_eq_rdropWhile]
    exact List.rdropWhile_prefix isBlank _
  rw [List.dropWhile_eq_self_iff]
  intro hpos
  have hfront : 0 < (cs.dropWhile isBlank).length := by
    rw [← hrest, List.length_append]
    omega
  have hstart := List.dropWhile_eq_self_iff.1 (List.dropWhile_idempotent (p := isBlank) (l := cs))
  have hsame : (trim cs)[0] = (cs.dropWhile isBlank)[0] := by
    simp only [← hrest, List.getElem_append_left hpos]
  rw [hsame]
  exact hstart hfront

theorem trim_trim (cs : List Char) : trim (trim cs) = trim cs := by
  have hend : (trim cs).rdropWhile isBlank = trim cs := by
    rw [trim_eq_rdropWhile, List.rdropWhile_idempotent]
  calc trim (trim cs) = ((trim cs).dropWhile isBlank).rdropWhile isBlank := rfl
    _ = (trim cs).rdropWhile isBlank := by rw [dropWhile_trim]
    _ = trim cs := hend

/-- A blank at the end is trimmed like any other. -/
theorem trim_concat {c : Char} (hc : isBlank c) (cs : List Char) : trim (cs ++ [c]) = trim cs := by
  rw [trim_eq_rdropWhile, trim_eq_rdropWhile, List.dropWhile_append]
  split
  · rename_i h
    rw [List.isEmpty_iff.1 h, List.dropWhile_cons_of_pos hc, List.dropWhile_nil]
  · rw [List.rdropWhile_concat_pos _ _ _ hc]

theorem trim_of_forall {cs : List Char} (h : ∀ c ∈ cs, isBlank c = false) : trim cs = cs := by
  have hfront : cs.dropWhile isBlank = cs := by
    rw [List.dropWhile_eq_self_iff]
    intro hpos
    simp [h]
  rw [trim_eq_rdropWhile, hfront, List.rdropWhile_eq_self_iff]
  intro hne
  simp [h _ (List.getLast_mem hne)]

theorem words_cons {c : Char} (hc : isBlank c) (cs : List Char) : words (c :: cs) = words cs := by
  unfold words
  rw [← List.nil_append (c :: cs), pieces_append hc]
  rfl

theorem words_concat {c : Char} (hc : isBlank c) (cs : List Char) : words (cs ++ [c]) = words cs := by
  unfold words
  rw [pieces_append hc, List.filter_append]
  exact List.append_nil _

/-- Blanks around a text make no words. -/
theorem words_trim (cs : List Char) : words (trim cs) = words cs := by
  have hfront : words (cs.dropWhile isBlank) = words cs := by
    induction cs with
    | nil => rfl
    | cons c cs ih =>
      by_cases hc : isBlank c
      · rw [List.dropWhile_cons_of_pos hc, words_cons hc, ih]
      · rw [List.dropWhile_cons_of_neg hc]
  have hback (cs : List Char) : words (cs.rdropWhile isBlank) = words cs := by
    induction cs using List.reverseRecOn with
    | nil => rfl
    | append_singleton cs c ih =>
      by_cases hc : isBlank c
      · rw [List.rdropWhile_concat_pos _ _ _ hc, words_concat hc, ih]
      · rw [List.rdropWhile_concat_neg _ _ _ hc]
  rw [trim_eq_rdropWhile, hback, hfront]

/-- A text is the only word in it just if it has no blanks. -/
theorem words_trim_eq_singleton_iff {cs : List Char} (hcs : cs ≠ []) :
    words (trim cs) = [cs] ↔ ∀ c ∈ cs, isBlank c = false := by
  unfold words
  constructor
  · intro h c hc
    have hword : cs ∈ (pieces isBlank (trim cs)).filter (!·.isEmpty) := by
      rw [h]
      exact List.mem_cons_self
    exact not_sep_of_mem_pieces _ _ cs (List.mem_filter.1 hword).1 c hc
  · intro h
    rw [trim_of_forall h, pieces_of_forall h]
    simp [hcs]

end Chars

namespace Text

@[simp] theorem toList_trim (s : String) : (trim s).toList = Chars.trim s.toList :=
  String.toList_ofList

@[simp] theorem trim_trim (s : String) : trim (trim s) = trim s := by
  unfold trim
  rw [String.toList_ofList, Chars.trim_trim]

theorem words_trim (s : String) : words (trim s) = words s := by
  unfold words
  rw [toList_trim, Chars.words_trim]

theorem words_trim_eq_singleton_iff {s : String} (hs : s ≠ "") :
    words (trim s) = [s] ↔ hasBlank s = false := by
  have hlist : words (trim s) = [s] ↔ Chars.words (Chars.trim s.toList) = [s.toList] := by
    unfold words
    rw [toList_trim]
    constructor
    · intro h
      have hcs := congrArg (List.map String.toList) h
      simpa [Function.comp_def] using hcs
    · intro h
      rw [h, List.map_singleton, String.ofList_toList]
  rw [hlist, Chars.words_trim_eq_singleton_iff fun hnil => hs (String.toList_eq_nil_iff.1 hnil)]
  simp [hasBlank]

end Text

end GuidedShell
