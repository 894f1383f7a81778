import GuidedShell.Proofs.Session.Highlight
import GuidedShell.Surface.Buffer
import GuidedShell.Terminal.Editor

/-! The list on a surface and the list of the session are kept apart. They are the same list after
every event. -/
namespace GuidedShell

namespace Surface

/-- A list as a surface keeps it, if it shows one: the names and the row that is highlighted. -/
abbrev Listing := Option (List String × Option Nat)

def relist (l : Listing) : Call → Listing
  | .showSuggestions names selected => some (names, selected)
  | .hideSuggestions => none
  | .print _ | .clear | .setInput .. => l

def relistAll (l : Listing) (calls : List Call) : Listing := calls.foldl relist l

theorem relistAll_append (l : Listing) (first second : List Call) :
    relistAll l (first ++ second) = relistAll (relistAll l first) second :=
  List.foldl_append

theorem Buffer.suggestions_applyAll (b : Buffer) (calls : List Call) :
    (b.applyAll calls).suggestions = relistAll b.suggestions calls := by
  induction calls generalizing b with
  | nil => rfl
  | cons c cs ih =>
    have hcall : (b.apply c).suggestions = relist b.suggestions c := by cases c <;> rfl
    calc ((b.apply c).applyAll cs).suggestions = relistAll (b.apply c).suggestions cs := ih _
      _ = relistAll (relist b.suggestions c) cs := by rw [hcall]

end Surface

open Surface

theorem Terminal.Display.suggestions_print (d : Display) (text : String) :
    (d.print text).suggestions = d.suggestions := by
  unfold print
  split <;> rfl

theorem Terminal.Display.suggestions_applyAll (d : Display) (calls : List Call) :
    (d.applyAll calls).suggestions = relistAll d.suggestions calls := by
  induction calls generalizing d with
  | nil => rfl
  | cons c cs ih =>
    have hcall : (d.apply c).suggestions = relist d.suggestions c := by
      cases c with
      | print text => exact d.suggestions_print text
      | clear | setInput | showSuggestions | hideSuggestions => rfl
    calc ((d.apply c).applyAll cs).suggestions = relistAll (d.apply c).suggestions cs := ih _
      _ = relistAll (relist d.suggestions c) cs := by rw [hcall]

/-- The list that a surface is to show: none without names. -/
def Suggestions.listed? (g : Suggestions) : Listing :=
  if g.shown = [] then none else some (g.shown, g.selected)

namespace Suggestions

theorem listed?_of_inactive {g : Suggestions} (h : g.isActive = false) : g.listed? = none := by
  have hshown : g.shown = [] := by simpa [isActive] using h
  simp [listed?, hshown]

theorem listed?_of_active {g : Suggestions} (h : g.isActive) :
    g.listed? = some (g.shown, g.selected) := by
  have hshown : g.shown ≠ [] := by simpa [isActive] using h
  simp [listed?, hshown]

theorem confirmed?_eq_some_iff {g : Suggestions} {text : String} :
    g.confirmed? = some text ↔
      ∃ names i name, g.listed? = some (names, some i) ∧ names[i]? = some name ∧
        text = name ++ " " := by
  rw [confirmed?_eq_some_iff_row]
  constructor
  · rintro ⟨i, name, hi, hrow, rfl⟩
    have hshown : g.shown ≠ [] := fun hnil => by simp [hnil] at hrow
    exact ⟨g.shown, i, name, by simp [listed?, hshown, hi], hrow, rfl⟩
  · rintro ⟨names, i, name, hlist, hrow, rfl⟩
    unfold listed? at hlist
    split at hlist
    · cases hlist
    · obtain ⟨rfl, hi⟩ := Prod.mk.inj (Option.some.inj hlist)
      exact ⟨i, name, hi, hrow, rfl⟩

end Suggestions

namespace Session

variable (programs : Programs)

theorem relistAll_hideSuggestions (s : Session) :
    relistAll s.suggestions.listed? s.hideSuggestions.2 =
      s.hideSuggestions.1.suggestions.listed? := by
  unfold hideSuggestions
  split
  · rfl
  · rfl

theorem relistAll_shutdown (s : Session) (l : Listing) : relistAll l s.shutdown.2 = l := by
  unfold shutdown save
  dsimp only
  split <;> rfl

theorem relistAll_report (s : Session) (name : String) (args : List String)
    (outcome : Except Failure Outcome) (l : Listing) :
    relistAll l (s.report name args outcome).2 = l := by
  unfold report
  split
  · rfl
  · rfl
  · unfold offerCorrections
    split <;> rfl
  · rfl

theorem relistAll_obey (s : Session) (line : String) (l : Listing) :
    relistAll l (s.obey programs line).calls = l := by
  unfold obey
  split
  · unfold answer
    dsimp only
    split <;> rfl
  · split
    · rfl
    · rw [run_eq]
      dsimp only
      have hwritten (output : Bytes) :
          relistAll l (if output.isEmpty then [] else [.print (Text.ofBytesLossy output)]) = l := by
        split <;> rfl
      split
      · rw [relistAll_append, relistAll_append, hwritten, relistAll_report, relistAll_shutdown]
      · rw [relistAll_append, hwritten, relistAll_report]

/-- What is told on an event turns the list of the session into its next one. -/
theorem relistAll_handle (s : Session) (e : Event) :
    relistAll s.suggestions.listed? (s.handle programs e).calls =
      (s.handle programs e).session.suggestions.listed? := by
  have hmove (m : Suggestions.Move) (hactive : s.suggestions.isActive = true) :
      relistAll s.suggestions.listed? (s.moveSelection m).2 =
        (s.moveSelection m).1.suggestions.listed? := by
    have hmoved : (s.suggestions.move m).isActive := by
      simpa [Suggestions.isActive] using hactive
    exact (Suggestions.listed?_of_active hmoved).symm
  have hbrowse (move : History → History) :
      relistAll s.suggestions.listed? (s.browse move).2 = (s.browse move).1.suggestions.listed? := by
    calc relistAll s.suggestions.listed? (s.browse move).2
        = relistAll s.suggestions.listed? s.hideSuggestions.2 := by
          unfold browse
          dsimp only
          rw [relistAll_append]
          rfl
      _ = s.hideSuggestions.1.suggestions.listed? := s.relistAll_hideSuggestions
      _ = (s.browse move).1.suggestions.listed? := rfl
  cases e with
  | textChanged text =>
    simp only [handle, changeText]
    split
    · rename_i h
      exact (Suggestions.listed?_of_active h).symm
    · rename_i h
      exact (Suggestions.listed?_of_inactive (by simpa using h)).symm
  | navigateKey key =>
    have hnext := s.navigates key
    simp only [handle]
    generalize s.navigate key = next at hnext
    cases hnext with
    | moved m hactive => exact hmove m hactive
    | ignored => rfl
    | back | forward => exact hbrowse _
    | hidden => exact s.relistAll_hideSuggestions
  | submitLine line =>
    cases hc : s.suggestions.confirmed? with
    | some text =>
      rw [handle_confirmed programs hc]
      rfl
    | none =>
      rw [suggestions_handle programs hc, handle_eq_obey programs hc]
      simp only [Reaction.after, Reaction.display]
      rw [relistAll_append, relistAll_obey, relistAll_hideSuggestions]

end Session

end GuidedShell
