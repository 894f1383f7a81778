import GuidedShell.Suggestions
import Mathlib.Data.List.Induction

/-! The list of suggestions is that of the latest text, and the highlighted row is always one of its
rows. -/
namespace GuidedShell.Suggestions

/-- A row that is highlighted is on display. -/
def Sound (g : Suggestions) : Prop := ∀ i, g.selected = some i → i < g.shown.length

theorem sound_hidden : hidden.Sound := fun _ h => by cases h

/-- A new text never leaves a row highlighted that is not there, whatever was highlighted before. -/
theorem sound_update (g : Suggestions) (buffer : String) (known : List String) :
    (g.update buffer known).Sound := by
  unfold update
  dsimp only
  split
  · exact sound_hidden
  · split
    · intro i hi
      obtain ⟨-, hlt⟩ := Option.filter_eq_some_iff.1 hi
      simpa using hlt
    · exact fun _ h => by cases h

theorem sound_move {g : Suggestions} (h : g.Sound) (m : Move) : (g.move m).Sound := by
  unfold move
  dsimp only
  split
  · exact h
  · rename_i hn
    have hpos : 0 < g.shown.length := Nat.pos_of_ne_zero hn
    intro i hi
    have hi := Option.some.inj hi
    subst hi
    dsimp only
    split
    · exact hpos
    · omega
    · exact Nat.mod_lt _ hpos
    · exact Nat.mod_lt _ hpos

namespace Sound

variable {g : Suggestions}

/-- A highlighted row that is on display is one that Enter accepts. -/
theorem confirmed?_eq_none_iff (h : g.Sound) : g.confirmed? = none ↔ g.selected = none := by
  unfold confirmed? chosen?
  rw [Option.map_eq_none_iff]
  cases hi : g.selected with
  | none => simp
  | some i => simp [h i hi]

/-- The highlighted row is kept just if the list is. A row that is out of range is never met. -/
theorem selected_update (h : g.Sound) (buffer : String) (known : List String) :
    (g.update buffer known).selected =
      if (g.update buffer known).shown = g.shown then g.selected else none := by
  rw [shown_update]
  unfold update
  dsimp only
  by_cases hempty : (completions buffer known).isEmpty
  · rw [if_pos hempty, List.isEmpty_iff.1 hempty]
    split
    · rename_i hshown
      cases hi : g.selected with
      | none => rfl
      | some i =>
        have hlt := h i hi
        rw [← hshown] at hlt
        exact absurd hlt (Nat.not_lt_zero i)
    · rfl
  · rw [if_neg hempty]
    split
    · cases hi : g.selected with
      | none => rfl
      | some i => simp [h i hi]
    · rfl

end Sound

theorem confirmed?_eq_some_iff_row {g : Suggestions} {text : String} :
    g.confirmed? = some text ↔
      ∃ i name, g.selected = some i ∧ g.shown[i]? = some name ∧ text = name ++ " " := by
  unfold confirmed? chosen?
  simp only [Option.map_eq_some_iff, Option.bind_eq_some_iff]
  constructor
  · rintro ⟨name, ⟨i, hi, hrow⟩, rfl⟩
    exact ⟨i, name, hi, hrow, rfl⟩
  · rintro ⟨i, name, hi, hrow, rfl⟩
    exact ⟨name, ⟨i, hi, hrow⟩, rfl⟩

/-- What is on display completes this text, which is the start of a command name. -/
structure Completes (g : Suggestions) (buffer : String) (known : List String) : Prop where
  begun : buffer ≠ ""
  unbroken : ∀ c ∈ buffer.toList, Chars.isBlank c = false
  shown : g.shown = known.filter (Text.startsWith · buffer)
  sound : g.Sound

/-- A list that a new text brings up completes it. -/
theorem completes_update {g : Suggestions} {buffer : String} {known : List String}
    (h : g.update buffer known ≠ hidden) : (g.update buffer known).Completes buffer known := by
  have hshown := g.shown_update buffer known
  have hnames : completions buffer known ≠ [] := by
    intro hnil
    refine h ?_
    unfold update
    simp [hnil]
  unfold completions at hshown hnames
  split at hnames
  · exact absurd rfl hnames
  · rename_i hbuffer
    rw [if_neg hbuffer] at hshown
    rw [Bool.or_eq_true, not_or] at hbuffer
    refine ⟨?_, ?_, hshown, g.sound_update buffer known⟩
    · simpa using hbuffer.1
    · simpa [Text.hasBlank] using hbuffer.2

/-- This is the last text that the actions bring, and these are the names known then. -/
def IsLatest (actions : List Action) (buffer : String) (known : List String) : Prop :=
  ∃ before after, actions = before ++ .update buffer known :: after ∧
    ∀ text names, .update text names ∉ after

theorem isLatest_concat (actions : List Action) (buffer : String) (known : List String) :
    IsLatest (actions ++ [.update buffer known]) buffer known :=
  ⟨actions, [], rfl, fun _ _ h => by cases h⟩

theorem IsLatest.concat {actions : List Action} {buffer : String} {known : List String}
    (h : IsLatest actions buffer known) {a : Action} (ha : ∀ text names, a ≠ .update text names) :
    IsLatest (actions ++ [a]) buffer known := by
  obtain ⟨before, after, rfl, hafter⟩ := h
  refine ⟨before, after ++ [a], by simp, fun text names hmem => ?_⟩
  rcases List.mem_append.1 hmem with hmem | hmem
  · exact hafter text names hmem
  · exact ha text names (List.mem_singleton.1 hmem).symm

/-- Nothing is on display, or what completes the latest text. -/
def Current (actions : List Action) (g : Suggestions) : Prop :=
  g = hidden ∨ ∃ buffer known, IsLatest actions buffer known ∧ g.Completes buffer known

theorem move_hidden (m : Move) : hidden.move m = hidden := rfl

/-- One more action leaves what completes the latest text, or nothing. -/
theorem Current.act {actions : List Action} {g : Suggestions} (h : Current actions g) (a : Action) :
    Current (actions ++ [a]) (g.act a) := by
  -- Everything but a new text keeps the list as it is, or takes it away.
  have hkept (ha : ∀ text names, a ≠ .update text names) (hshown : (g.act a).shown = g.shown)
      (hsound : g.Sound → (g.act a).Sound) (hhidden : g = hidden → g.act a = hidden) :
      Current (actions ++ [a]) (g.act a) := by
    rcases h with hnone | ⟨buffer, known, hlatest, hcompletes⟩
    · exact .inl (hhidden hnone)
    · refine .inr ⟨buffer, known, hlatest.concat ha, hcompletes.begun, hcompletes.unbroken, ?_,
        hsound hcompletes.sound⟩
      rw [hshown, hcompletes.shown]
  cases a with
  | update buffer known =>
    by_cases hhidden : g.update buffer known = hidden
    · exact .inl hhidden
    · exact .inr ⟨buffer, known, isLatest_concat actions buffer known, completes_update hhidden⟩
  | move m =>
    refine hkept (fun _ _ => nofun) (g.shown_move m) (sound_move · m) ?_
    rintro rfl
    exact move_hidden m
  | confirm =>
    cases hc : g.confirmed? with
    | some text => exact .inl (by simp [Suggestions.act, hc])
    | none =>
      have hsame : g.act .confirm = g := by simp [Suggestions.act, hc]
      refine hkept (fun _ _ => nofun) (congrArg shown hsame) (fun h => ?_) hsame.trans
      rw [hsame]
      exact h
  | hide => exact .inl rfl

theorem actAll_concat (g : Suggestions) (actions : List Action) (a : Action) :
    g.actAll (actions ++ [a]) = (g.actAll actions).act a := by
  simp [actAll]

theorem current_actAll (actions : List Action) : Current actions (hidden.actAll actions) := by
  induction actions using List.reverseRecOn with
  | nil => exact .inl rfl
  | append_singleton actions a ih =>
    rw [actAll_concat]
    exact ih.act a

theorem Current.sound {actions : List Action} {g : Suggestions} (h : Current actions g) : g.Sound := by
  rcases h with rfl | ⟨_, _, _, hcompletes⟩
  · exact sound_hidden
  · exact hcompletes.sound

/-- However texts, moves, confirmations and the wish to hide the list have followed one another,
either nothing is on display or selected, or the list has just the names known at the latest text
that start with it, and the selected row, if there is one, is one of them. So it is a selected row
that is confirmed, and a new text brings up its own list and keeps the selection just if that is the
list from before. -/
theorem list_follows_latest_text (actions : List Action) :
    let g := hidden.actAll actions
    ((g.shown = [] ∧ g.selected = none) ∨
        ∃ buffer known, IsLatest actions buffer known ∧ buffer ≠ "" ∧
          (∀ c ∈ buffer.toList, Chars.isBlank c = false) ∧
          g.shown = known.filter (Text.startsWith · buffer) ∧
          ∀ i, g.selected = some i → i < g.shown.length) ∧
      (g.confirmed?.isSome ↔ g.selected.isSome) ∧
      (∀ text, g.confirmed? = some text ↔
        ∃ i name, g.selected = some i ∧ g.shown[i]? = some name ∧ text = name ++ " ") ∧
      ∀ buffer known, (g.update buffer known).shown = completions buffer known ∧
        (g.update buffer known).selected =
          if (g.update buffer known).shown = g.shown then g.selected else none := by
  intro g
  have hcurrent : Current actions g := current_actAll actions
  refine ⟨?_, ?_, fun text => confirmed?_eq_some_iff_row, fun buffer known =>
    ⟨g.shown_update buffer known, hcurrent.sound.selected_update buffer known⟩⟩
  · rcases hcurrent with hhidden | ⟨buffer, known, hlatest, hcompletes⟩
    · rw [hhidden]
      exact .inl ⟨rfl, rfl⟩
    · exact .inr ⟨buffer, known, hlatest, hcompletes.begun, hcompletes.unbroken, hcompletes.shown,
        hcompletes.sound⟩
  · rw [Option.isSome_iff_ne_none, Option.isSome_iff_ne_none, ne_eq, ne_eq,
      hcurrent.sound.confirmed?_eq_none_iff]

/-- The highlighted row stays while a longer text brings up the same list, and is put out by the list of
another text. -/
theorem list_follows_latest_text_kept :
    let known := ["cat", "cd", "clear", "exit"]
    let g := hidden.actAll [.update "c" known, .update "cl" known, .move .backward]
    g.shown = ["clear"] ∧ g.confirmed? = some "clear " ∧
      (g.update "cle" known).shown = ["clear"] ∧ (g.update "cle" known).selected = some 0 ∧
      (g.update "c" known).shown = ["cat", "cd", "clear"] ∧
      (g.update "c" known).selected = none := by
  intro known g
  have hselected : g.selected = some 0 := by rfl
  obtain ⟨-, -, hconfirmed, hupdate⟩ :=
    list_follows_latest_text [.update "c" known, .update "cl" known, .move .backward]
  have hkept := hupdate "cle" known
  have hother := hupdate "c" known
  refine ⟨by rfl, (hconfirmed "clear ").2 ⟨0, "clear", hselected, by rfl, by rfl⟩, hkept.1, ?_,
    hother.1, ?_⟩
  · exact hkept.2.trans hselected
  · exact hother.2

end GuidedShell.Suggestions
