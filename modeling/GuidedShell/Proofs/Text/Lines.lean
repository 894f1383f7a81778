import GuidedShell.Console.Libraries
import GuidedShell.Proofs.Text.Pieces
import GuidedShell.Proofs.Text.Trim
import GuidedShell.Proofs.Utf8.LineFeed

/-! Lines of a text and lines of an input. Neither holds a line feed, and lines that are put together
come apart as they were. -/
namespace GuidedShell

namespace Chars

theorem dropReturn_sublist (line : List Char) : (dropReturn line).Sublist line := by
  unfold dropReturn
  split
  · exact line.dropLast_sublist
  · exact List.Sublist.refl line

theorem lineFeed_not_mem_of_mem_lines {cs line : List Char} (h : line ∈ lines cs) :
    '\n' ∉ line := by
  have hpieces (p : List Char) (hp : p ∈ pieces (· == '\n') cs) : '\n' ∉ p := fun hmem => by
    simpa using not_sep_of_mem_pieces _ _ p hp _ hmem
  rcases List.mem_append.1 h with h | h
  · obtain ⟨p, hp, rfl⟩ := List.mem_map.1 h
    exact fun hmem =>
      hpieces p ((List.dropLast_sublist _).subset hp)
        ((dropReturn_sublist p).subset hmem)
  · have hlast := Option.mem_toList.1 (List.mem_of_mem_filter h)
    exact hpieces line (List.mem_of_getLast? hlast)

theorem trim_dropReturn (line : List Char) : trim (dropReturn line) = trim line := by
  unfold dropReturn
  split
  · rename_i h
    obtain ⟨front, rfl⟩ := List.getLast?_eq_some_iff.1 h
    rw [List.dropLast_concat, trim_concat (by decide)]
  · rfl

/-! Backspaces bring nothing into a text. -/

theorem flatten_clustersFrom (j : Join) (held cs : List Char) :
    (clustersFrom j held cs).flatten = held.reverse ++ cs := by
  induction cs generalizing j held with
  | nil =>
    unfold clustersFrom
    split
    · rename_i h
      simp [List.isEmpty_iff.1 h]
    · simp
  | cons c cs ih =>
    unfold clustersFrom
    split
    · simp [ih]
    · simp [ih]

theorem flatten_clusters (cs : List Char) : (clusters cs).flatten = cs := by
  unfold clusters
  rw [flatten_clustersFrom]
  rfl

theorem dropBytes?_subset {n : Nat} {cs left : List Char} (h : dropBytes? n cs = some left) :
    left ⊆ cs := by
  induction cs generalizing n with
  | nil =>
    unfold dropBytes? at h
    split at h
    · cases h
      exact List.Subset.refl []
    · cases h
  | cons c cs ih =>
    unfold dropBytes? at h
    split at h
    · cases h
      exact List.Subset.refl (c :: cs)
    · split at h
      · exact fun _ hmem => List.mem_cons_of_mem _ (ih h hmem)
      · cases h

theorem Erasure.step?_subset {cs cluster : List Char} {e e' : Erasure} (he : e.kept ⊆ cs)
    (hcluster : cluster ⊆ cs) (h : e.step? cluster = some e') : e'.kept ⊆ cs := by
  unfold step? at h
  split at h
  · obtain ⟨left, hleft, hnext⟩ := Option.bind_eq_some_iff.1 h
    cases hnext
    exact fun _ hmem => he (dropBytes?_subset hleft hmem)
  · cases h
    intro c hmem
    rcases List.mem_append.1 hmem with hmem | hmem
    · exact hcluster (List.mem_reverse.1 hmem)
    · exact he hmem

theorem eraseBackspaces?_subset {cs left : List Char} (h : eraseBackspaces? cs = some left) :
    left ⊆ cs := by
  -- What is kept at any time has come from some cluster of the text.
  have hkept (parts : List (List Char)) (hparts : ∀ p ∈ parts, p ⊆ cs) {e last : Erasure}
      (he : e.kept ⊆ cs) (hlast : parts.foldlM Erasure.step? e = some last) : last.kept ⊆ cs := by
    induction parts generalizing e with
    | nil =>
      cases hlast
      exact he
    | cons p ps ih =>
      rw [List.foldlM_cons] at hlast
      obtain ⟨next, hnext, hlast⟩ := Option.bind_eq_some_iff.1 hlast
      exact ih (fun q hq => hparts q (List.mem_cons_of_mem _ hq))
        (Erasure.step?_subset he (hparts p List.mem_cons_self) hnext) hlast
  have hclusters (p : List Char) (hp : p ∈ clusters cs) : p ⊆ cs := fun c hc => by
    rw [← flatten_clusters cs]
    exact List.mem_flatten_of_mem hp hc
  obtain ⟨last, hlast, hleft⟩ := Option.bind_eq_some_iff.1 h
  cases hleft
  intro c hc
  exact hkept (clusters cs) hclusters (List.nil_subset _) hlast (List.mem_reverse.1 hc)

end Chars

namespace Console

/-- No line of an input has a line feed but at its end. -/
theorem lineFeed_not_mem_dropLast {input raw : Bytes} (h : raw ∈ rawLines input) :
    0x0A ∉ raw.dropLast := by
  have hpieces (p : Bytes) (hp : p ∈ pieces (· == 0x0A) input) : 0x0A ∉ p := fun hmem => by
    simpa using not_sep_of_mem_pieces _ _ p hp _ hmem
  rcases List.mem_append.1 h with h | h
  · obtain ⟨p, hp, rfl⟩ := List.mem_map.1 h
    rw [List.dropLast_concat]
    exact hpieces p ((List.dropLast_sublist _).subset hp)
  · have hlast := Option.mem_toList.1 (List.mem_of_mem_filter h)
    exact fun hmem =>
      hpieces raw (List.mem_of_getLast? hlast) ((List.dropLast_sublist _).subset hmem)

theorem lineFeed_not_mem_dropEnding {raw : Bytes} (hraw : 0x0A ∉ raw.dropLast) {cs : List Char}
    (h : Utf8.decode? raw = some cs) : '\n' ∉ dropEnding cs := by
  by_cases hfeed : raw.getLast? = some 0x0A
  · obtain ⟨p, rfl⟩ := List.getLast?_eq_some_iff.1 hfeed
    rw [List.dropLast_concat] at hraw
    obtain ⟨front, hfront, rfl⟩ := Utf8.decodeFrom_append_lineFeed (s := .start) trivial h
    have hnone := Utf8.lineFeed_not_mem_of_decodeFrom (s := .start) trivial hfront hraw
    have hdrop : dropEnding (front ++ ['\n']) = Chars.dropReturn front := by
      simp [dropEnding]
    rw [hdrop]
    exact fun hmem => hnone ((Chars.dropReturn_sublist front).subset hmem)
  · have hnowhere : 0x0A ∉ raw := by
      intro hmem
      have hne : raw ≠ [] := List.ne_nil_of_mem hmem
      rw [← List.dropLast_append_getLast hne, List.mem_append, List.mem_singleton] at hmem
      rcases hmem with hmem | hlast
      · exact hraw hmem
      · exact hfeed (by rw [List.getLast?_eq_some_getLast hne, ← hlast])
    have hnone := Utf8.lineFeed_not_mem_of_decodeFrom (s := .start) trivial h hnowhere
    have hdrop : dropEnding cs = cs := by
      have hlast : cs.getLast? ≠ some '\n' := fun hlast => hnone (List.mem_of_getLast? hlast)
      simp [dropEnding, hlast]
    rwa [hdrop]

theorem Libraries.standard_dropsLineFeed : standard.DropsLineFeed := by
  intro raw line hraw h
  obtain ⟨cs, hcs, htext⟩ := Option.bind_eq_some_iff.1 h
  obtain ⟨left, hleft, hline⟩ := Option.bind_eq_some_iff.1 htext
  cases hline
  rw [String.toList_ofList]
  exact fun hmem => lineFeed_not_mem_dropEnding hraw hcs (Chars.eraseBackspaces?_subset hleft hmem)

end Console

end GuidedShell
