import GuidedShell.Proofs.Strict.Parts

/-! The line of suggestions is a window on the list. It is as full as the list allows, moves with the
selection, and says how many names it leaves out. -/
namespace GuidedShell.Terminal

/-- Every name as it is shown, where the first stands at position `first` of the whole list. -/
def bracket (selected : Option Nat) (first : Nat) (names : List String) : List String :=
  names.mapIdx fun j name => if selected = some (first + j) then "[" ++ name ++ "]" else name

theorem mark_eq_bracket (selected : Option Nat) (position : Nat) (names : List String) :
    mark selected position names = bracket selected position names := by
  induction names generalizing position with
  | nil => rfl
  | cons n ns ih =>
    have hshift : bracket selected (position + 1) ns =
        ns.mapIdx fun j name =>
          if selected = some (position + (j + 1)) then "[" ++ name ++ "]" else name := by
      simp only [bracket, Nat.add_assoc, Nat.add_comm 1]
    rw [mark, ih, hshift, bracket, List.mapIdx_cons]
    rfl

variable (names : List String) (selected : Option Nat)

/-- The names in the window as they stand in the list. -/
def visible : List String := (names.drop (windowStart selected)).take visibleNames

theorem length_visible :
    (visible names selected).length = min visibleNames (names.length - windowStart selected) := by
  simp [visible]

theorem take_append_visible :
    names = names.take (windowStart selected) ++ visible names selected ++
      (names.drop (windowStart selected)).drop visibleNames := by
  rw [visible, List.append_assoc, List.take_append_drop, List.take_append_drop]

/-- A window that starts after the end of the list is empty, so it starts where the names before it
end in any case. -/
theorem window_eq_bracket :
    window names selected =
      bracket selected (names.take (windowStart selected)).length (visible names selected) := by
  have hwindow : window names selected =
      bracket selected (windowStart selected) (visible names selected) := mark_eq_bracket ..
  rw [hwindow]
  by_cases hstart : windowStart selected ≤ names.length
  · rw [List.length_take, Nat.min_eq_left hstart]
  · have hempty : visible names selected = [] := by
      have hlength := length_visible names selected
      have hnone : names.length - windowStart selected = 0 := by omega
      rw [hnone, Nat.min_zero] at hlength
      exact List.length_eq_zero_iff.1 hlength
    rw [hempty]
    rfl

theorem length_window : (window names selected).length = (visible names selected).length :=
  length_mark ..

variable {names selected}

theorem length_visible_of_inside (h : ∀ i, selected = some i → i < names.length) :
    (visible names selected).length = min names.length visibleNames := by
  rw [length_visible]
  cases selected with
  | none => simp [windowStart, Nat.min_comm]
  | some i =>
    have hi : i < names.length := h i rfl
    simp only [windowStart, visibleNames]
    omega

/-- The selected position is in the window, wherever the list ends. -/
theorem windowStart_le {i : Nat} (h : selected = some i) :
    windowStart selected ≤ i ∧ i < windowStart selected + visibleNames := by
  subst h
  simp only [windowStart, visibleNames]
  omega

/-- The line shows names that follow one another in the list, joined by two spaces, and the selected
one and no other in brackets. What it leaves out is counted, and no name is lost. If the selection is
a position of the list, or none, the window has ten names or all there are, the selected one among
them, and starts with the first one if none is selected. -/
theorem hint_shows_selection (names : List String) (selected : Option Nat) :
    ∃ (front shown back : List String) (hidden : Nat),
      names = front ++ shown ++ back ∧ shown.length + hidden = names.length ∧
      Strict.hint? names selected = some (hint names selected) ∧
      hint names selected = "   " ++ Text.join "  " (bracket selected front.length shown ++
        if 0 < hidden then ["(+" ++ Text.decimal hidden ++ ")"] else []) ∧
      ((∀ i, selected = some i → i < names.length) →
        shown.length = min names.length 10 ∧ hidden = names.length - 10 ∧
          (0 < hidden ↔ 10 < names.length) ∧ (selected = none → front = []) ∧
          ∀ i, selected = some i → front.length ≤ i ∧ i < front.length + shown.length) := by
  have hlength := length_visible names selected
  have hwindow := length_window names selected
  refine ⟨names.take (windowStart selected), visible names selected, _,
    names.length - (window names selected).length, take_append_visible names selected, ?_,
    Strict.hint?_eq_some names selected, ?_, fun hinside => ?_⟩
  · omega
  · unfold hint
    dsimp only
    rw [← window_eq_bracket]
  · have hfull := length_visible_of_inside hinside
    have hten : visibleNames = 10 := rfl
    refine ⟨hfull, by omega, by omega, ?_, fun i hi => ?_⟩
    · rintro rfl
      rfl
    · have hstart := windowStart_le hi
      have hi' := hinside i hi
      rw [List.length_take, hlength]
      omega

/-- The thirteenth of fifteen names is selected, and five are left out. -/
theorem hint_shows_selection_long :
    let names := (List.range 15).map fun i => "cmd" ++ Text.decimal i
    ∃ front shown back : List String, names = front ++ shown ++ back ∧ shown.length = 10 ∧
      front.length ≤ 12 ∧ 12 < front.length + shown.length ∧
      hint names (some 12) =
        "   " ++ Text.join "  " (bracket (some 12) front.length shown ++ ["(+5)"]) := by
  intro names
  obtain ⟨front, shown, back, hidden, hnames, -, -, hline, hinside⟩ :=
    hint_shows_selection names (some 12)
  have hlength : names.length = 15 := by decide
  obtain ⟨hfull, hhidden, -, -, hheld⟩ := hinside fun i hi => by
    cases hi
    omega
  have hfive : hidden = 5 := by omega
  subst hfive
  exact ⟨front, shown, back, hnames, by omega, (hheld 12 rfl).1, (hheld 12 rfl).2, hline⟩

/-- A selection far behind the end of the list leaves nothing in the window. -/
example : hint ["git", "give"] (some 11) = "   (+2)" := by decide +kernel

end GuidedShell.Terminal
