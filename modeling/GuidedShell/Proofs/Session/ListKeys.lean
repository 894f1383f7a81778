import GuidedShell.Proofs.Session.Run
import GuidedShell.Proofs.Suggestions.Moves

/-! Keys that move through the list of suggestions while it shows. -/
namespace GuidedShell

/-- The move that a key makes while the list shows. -/
def Key.move? : Key → Option Suggestions.Move
  | .up => some .backward
  | .down | .tab => some .forward
  | .historyBack | .historyForward | .escape => none

namespace Session

variable {s : Session}

theorem navigate_of_move? {key : Key} {m : Suggestions.Move} (hkey : key.move? = some m)
    (hactive : s.suggestions.isActive = true) : s.navigate key = s.moveSelection m := by
  cases key with
  | up | down | tab =>
    cases hkey
    simp only [navigate, hactive]
  | historyBack | historyForward | escape => cases hkey

theorem suggestions_after_keys (programs : Programs) {keys : List Key}
    {moves : List Suggestions.Move} (hkeys : keys.map Key.move? = moves.map some)
    (hactive : s.suggestions.isActive = true) :
    (s.after programs (keys.map .navigateKey)).suggestions = s.suggestions.moveAll moves := by
  induction keys generalizing s moves with
  | nil =>
    have hmoves : moves = [] := by simpa using hkeys.symm
    rw [hmoves]
    rfl
  | cons key keys ih =>
    cases moves with
    | nil => cases hkeys
    | cons m ms =>
      obtain ⟨hkey, hrest⟩ := List.cons.inj hkeys
      have hnext : (s.handle programs (.navigateKey key)).session =
          { s with suggestions := s.suggestions.move m } := by
        simp only [handle, navigate_of_move? hkey hactive]
        rfl
      have hstill : (s.suggestions.move m).isActive = true := by
        simpa [Suggestions.isActive] using hactive
      rw [List.map_cons, after_cons, hnext, ih hrest hstill, Suggestions.moveAll_cons]

end Session

namespace Suggestions

/-- Moves count rows modulo the length of the list. From a selected row they lead as many rows on as
there are moves forward, less the moves backward, in whatever order they come. With none selected, a
first move forward counts from the row before the first one, and a first move backward from the first
one. No move changes the list or leaves it, and in an empty list no move selects anything. The keys
that move through a list on display do just this. -/
theorem moves_count_modulo {g : Suggestions} (hsound : g.Sound) (moves : List Move) :
    let n := g.shown.length
    let f : ℤ := moves.count .forward
    let b : ℤ := moves.count .backward
    let last := g.actAll (moves.map .move)
    (0 < n → (∀ i : Nat, g.selected = some i → last.selected = some ((i + f - b) % n).toNat) ∧
      (g.selected = none →
        (moves.head? = some .forward → last.selected = some ((f - b - 1) % n).toNat) ∧
        (moves.head? = some .backward → last.selected = some ((f - b) % n).toNat))) ∧
    last.shown = g.shown ∧
    (∀ front, front <+: moves → ∀ i, (g.actAll (front.map .move)).selected = some i → i < n) ∧
    (n = 0 → last.selected = none) ∧
    ∀ (programs : Programs) (s : Session) (keys : List Key), s.suggestions = g → 0 < n →
      keys.map Key.move? = moves.map some →
      (s.after programs (keys.map .navigateKey)).suggestions = last := by
  intro n f b last
  have hnet : net moves = f - b := rfl
  refine ⟨fun hn => ⟨fun i hi => ?_, fun hnone => ⟨fun hhead => ?_, fun hhead => ?_⟩⟩,
    g.shown_moveAll moves, ?_, ?_, ?_⟩
  · have hrow : g.selected = some (rowAt n i) := by rw [rowAt_of_lt (hsound i hi), hi]
    have hlast := selected_moveAll hn hrow moves
    rw [hnet, ← Int.add_sub_assoc] at hlast
    exact hlast
  · obtain ⟨rest, rfl⟩ := List.head?_eq_some_iff.1 hhead
    have hrest := selected_moveAll (g := g.move .forward) (by simpa using hn)
      (by simpa using (selected_move_none hn hnone).1) rest
    have hsum : 0 + net rest = f - b - 1 := by
      rw [← hnet, net_forward]
      omega
    rw [shown_move, hsum] at hrest
    exact hrest
  · obtain ⟨rest, rfl⟩ := List.head?_eq_some_iff.1 hhead
    have hrest := selected_moveAll (g := g.move .backward) (by simpa using hn)
      (by simpa using (selected_move_none hn hnone).2) rest
    have hsum : -1 + net rest = f - b := by
      rw [← hnet, net_backward]
      omega
    rw [shown_move, hsum] at hrest
    exact hrest
  · intro front _ i hi
    have hfront := sound_moveAll hsound front i hi
    rwa [shown_moveAll] at hfront
  · intro hn
    have hlast : last = g := moveAll_of_empty hn moves
    rw [hlast]
    cases hi : g.selected with
    | none => rfl
    | some i =>
      have hlt : i < n := hsound i hi
      omega
  · rintro programs s keys rfl hn hkeys
    have hactive : s.suggestions.isActive = true := by
      have hne : s.suggestions.shown ≠ [] := List.ne_nil_of_length_pos hn
      simpa [isActive] using hne
    exact Session.suggestions_after_keys programs hkeys hactive

/-- Back over the first row of three, and on with the keys. -/
theorem moves_count_modulo_back :
    let g : Suggestions := ⟨["ga", "gb", "gc"], some 0⟩
    let s : Session := { Session.bare with suggestions := g }
    g.Sound ∧ (g.actAll [.move .backward, .move .backward]).selected = some 1 ∧
      (s.after .idle [.navigateKey .up, .navigateKey .up]).suggestions.selected = some 1 := by
  intro g s
  have hsound : g.Sound := by
    intro i hi
    cases hi
    decide
  obtain ⟨hrows, -, -, -, hkeys⟩ := moves_count_modulo hsound [.backward, .backward]
  have hselected := (hrows (by decide)).1 0 rfl
  refine ⟨hsound, hselected, ?_⟩
  have hsame := hkeys .idle s [.up, .up] rfl (by decide) rfl
  exact (congrArg (·.selected) hsame).trans hselected

end Suggestions

end GuidedShell
