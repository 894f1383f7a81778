import GuidedShell.Session.Handle

/-! Runs of a session: its steps on a list of events, which of these only edit the input, and what
editing leaves alone. -/
namespace GuidedShell

/-- Programs that end well, say nothing and change nothing. -/
def Programs.idle : Programs := fun _ files => ⟨.exited 0, [], [], files⟩

instance (m : Mode) : Decidable (m = .normal) :=
  match m with
  | .normal => .isTrue rfl
  | .awaitingCorrection _ => .isFalse nofun

namespace Session

/-- A session in an empty tree, which knows the builtins and has no history. -/
def bare : Session := new ⟨.empty, [], [], none⟩ ⟨[], [FilePath.slash], false⟩ .empty .empty

/-- An event, the session it came to, and what the session made of it. -/
structure Step where
  before : Session
  event : Event
  reaction : Reaction

/-- The steps on these events, one after another. -/
def steps (programs : Programs) (s : Session) : List Event → List Step
  | [] => []
  | e :: es => ⟨s, e, s.handle programs e⟩ :: (s.handle programs e).session.steps programs es

/-- The session after these events. -/
def after (programs : Programs) (s : Session) (events : List Event) : Session :=
  events.foldl (fun s e => (s.handle programs e).session) s

/-- Everything that the surface is told on these events. -/
def calls (programs : Programs) (s : Session) (events : List Event) : List Surface.Call :=
  (s.steps programs events).flatMap (·.reaction.calls)

variable (programs : Programs)

@[simp] theorem steps_nil (s : Session) : s.steps programs [] = [] := rfl

@[simp] theorem steps_cons (s : Session) (e : Event) (es : List Event) :
    s.steps programs (e :: es) =
      ⟨s, e, s.handle programs e⟩ :: (s.handle programs e).session.steps programs es := rfl

@[simp] theorem after_nil (s : Session) : s.after programs [] = s := rfl

@[simp] theorem after_cons (s : Session) (e : Event) (es : List Event) :
    s.after programs (e :: es) = (s.handle programs e).session.after programs es := rfl

theorem steps_append (s : Session) (first second : List Event) :
    s.steps programs (first ++ second) =
      s.steps programs first ++ (s.after programs first).steps programs second := by
  induction first generalizing s with
  | nil => rfl
  | cons e es ih => rw [List.cons_append, steps_cons, steps_cons, ih, after_cons, List.cons_append]

theorem after_append (s : Session) (first second : List Event) :
    s.after programs (first ++ second) = (s.after programs first).after programs second :=
  List.foldl_append

@[simp] theorem calls_nil (s : Session) : s.calls programs [] = [] := rfl

@[simp] theorem calls_cons (s : Session) (e : Event) (es : List Event) :
    s.calls programs (e :: es) =
      (s.handle programs e).calls ++ (s.handle programs e).session.calls programs es := rfl

/-- What every step of a run keeps is left by the run. -/
theorem after_of_steps {inv : Session → Prop} {s : Session} {events : List Event}
    (step : ∀ t e, ⟨t, e, t.handle programs e⟩ ∈ s.steps programs events → inv t →
      inv (t.handle programs e).session) (h : inv s) : inv (s.after programs events) := by
  induction events generalizing s with
  | nil => exact h
  | cons e es ih =>
    have hnext := step s e List.mem_cons_self h
    exact ih (fun t e ht => step t e (List.mem_cons_of_mem _ ht)) hnext

theorem after_induction {inv : Session → Prop}
    (step : ∀ s e, inv s → inv (s.handle programs e).session) {s : Session} (h : inv s)
    (events : List Event) : inv (s.after programs events) :=
  after_of_steps programs (fun t e _ => step t e) h

/-- A step of a run is what the session has come to makes of the next event. -/
theorem mem_steps_iff {s : Session} {events : List Event} {t : Step} :
    t ∈ s.steps programs events ↔ ∃ front e back, events = front ++ e :: back ∧
      t = ⟨s.after programs front, e, (s.after programs front).handle programs e⟩ := by
  constructor
  · intro h
    induction events generalizing s with
    | nil => cases h
    | cons e es ih =>
      rcases List.mem_cons.1 h with rfl | h
      · exact ⟨[], e, es, rfl, rfl⟩
      · obtain ⟨front, e', back, rfl, rfl⟩ := ih h
        exact ⟨e :: front, e', back, rfl, rfl⟩
  · rintro ⟨front, e, back, rfl, rfl⟩
    rw [steps_append, steps_cons]
    exact List.mem_append_right _ List.mem_cons_self

/-! What a submitted line comes to. -/

theorem handle_confirmed {s : Session} {text : String} (h : s.suggestions.confirmed? = some text)
    (line : String) :
    s.handle programs (.submitLine line) =
      ⟨{ s with suggestions := .hidden }, .goOn, [.hideSuggestions, .setInput text true]⟩ := by
  simp only [handle, submit, h]

theorem handle_unconfirmed {s : Session} (h : s.suggestions.confirmed? = none) (line : String) :
    s.handle programs (.submitLine line) =
      ((s.hideSuggestions.1.record (Text.trim line)).obey programs (Text.trim line)).after
        s.hideSuggestions.2 := by
  simp only [handle, submit, h]

/-- What a key can come to. -/
inductive Navigates (s : Session) : Session × List Surface.Call → Prop
  | moved (m : Suggestions.Move) (active : s.suggestions.isActive) : Navigates s (s.moveSelection m)
  | ignored : Navigates s (s, [])
  | back : Navigates s (s.browse .back)
  | forward : Navigates s (s.browse .forward)
  | hidden : Navigates s s.hideSuggestions

theorem navigates (s : Session) (key : Key) : Navigates s (s.navigate key) := by
  unfold navigate
  cases hactive : s.suggestions.isActive with
  | true =>
    cases key with
    | up => exact .moved .backward hactive
    | down | tab => exact .moved .forward hactive
    | historyBack => exact .back
    | historyForward => exact .forward
    | escape => exact .hidden
  | false =>
    cases key with
    | up | historyBack => exact .back
    | down | historyForward => exact .forward
    | tab => exact .ignored
    | escape => exact .hidden

/-- The event only edits the input: it is no submission, or one that accepts the highlighted
suggestion. -/
def edits (s : Session) : Event → Bool
  | .textChanged _ | .navigateKey _ => true
  | .submitLine _ => s.suggestions.confirmed?.isSome

theorem edits_eq_false_iff {s : Session} {e : Event} :
    s.edits e = false ↔ (∃ line, e = .submitLine line) ∧ s.suggestions.confirmed? = none := by
  cases e <;> simp [edits]

/-- The sessions differ at most in the list on display and in the place in the history. -/
structure Agree (s t : Session) : Prop where
  environment : s.environment = t.environment
  index : s.index = t.index
  mode : s.mode = t.mode
  world : s.world = t.world
  entries : s.history.entries = t.history.entries
  file : s.history.file? = t.history.file?
  saves : s.saves = t.saves

namespace Agree

variable {s t u : Session}

theorem refl (s : Session) : Agree s s := ⟨rfl, rfl, rfl, rfl, rfl, rfl, rfl⟩

theorem trans (h : Agree s t) (k : Agree t u) : Agree s u :=
  ⟨h.environment.trans k.environment, h.index.trans k.index, h.mode.trans k.mode,
    h.world.trans k.world, h.entries.trans k.entries, h.file.trans k.file, h.saves.trans k.saves⟩

end Agree

theorem hideSuggestions_agree (s : Session) : Agree s.hideSuggestions.1 s := by
  unfold hideSuggestions
  split <;> exact ⟨rfl, rfl, rfl, rfl, rfl, rfl, rfl⟩

theorem browse_agree (s : Session) {move : History → History}
    (hentries : ∀ h, (move h).entries = h.entries) (hfile : ∀ h, (move h).file? = h.file?) :
    Agree (s.browse move).1 s := by
  have hide := s.hideSuggestions_agree
  refine ⟨hide.environment, hide.index, hide.mode, hide.world, ?_, ?_, hide.saves⟩
  · exact (hentries _).trans hide.entries
  · exact (hfile _).trans hide.file

theorem navigate_agree (s : Session) (key : Key) : Agree (s.navigate key).1 s := by
  have hnext := s.navigates key
  generalize s.navigate key = next at hnext
  cases hnext with
  | moved => exact ⟨rfl, rfl, rfl, rfl, rfl, rfl, rfl⟩
  | ignored => exact .refl s
  | back => exact s.browse_agree History.entries_back fun _ => rfl
  | forward =>
    refine s.browse_agree History.entries_forward fun h => ?_
    unfold History.forward
    split <;> rfl
  | hidden => exact s.hideSuggestions_agree

/-- Editing goes on, and leaves everything but the list and the place in the history as it was. -/
theorem handle_of_edits {s : Session} {e : Event} (h : s.edits e) :
    (s.handle programs e).flow = .goOn ∧ Agree (s.handle programs e).session s := by
  cases e with
  | textChanged text => exact ⟨rfl, rfl, rfl, rfl, rfl, rfl, rfl, rfl⟩
  | navigateKey key => exact ⟨rfl, s.navigate_agree key⟩
  | submitLine line =>
    obtain ⟨text, ht⟩ := Option.isSome_iff_exists.1 h
    rw [handle_confirmed programs ht]
    exact ⟨rfl, rfl, rfl, rfl, rfl, rfl, rfl, rfl⟩

end Session

end GuidedShell
