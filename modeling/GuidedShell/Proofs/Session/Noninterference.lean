import GuidedShell.Proofs.Session.Submission

/-! Editing the input never decides what is carried out: a run and the run of its submissions alone
write the same, go on alike and end in sessions that agree. -/
namespace GuidedShell

/-- The call changes the area in which output is shown. -/
def Surface.Call.isOutput : Surface.Call → Bool
  | .print _ | .clear => true
  | .setInput .. | .showSuggestions .. | .hideSuggestions => false

namespace Session

open Surface

variable (programs : Programs)

/-- The steps of a run that do more than edit the input. -/
def submissions (s : Session) (events : List Event) : List Step :=
  (s.steps programs events).filter fun t => !t.before.edits t.event

theorem outputs_hideSuggestions (s : Session) :
    s.hideSuggestions.2.filter Call.isOutput = [] := by
  unfold hideSuggestions
  split <;> rfl

theorem outputs_of_edits {s : Session} {e : Event} (h : s.edits e) :
    (s.handle programs e).calls.filter Call.isOutput = [] := by
  cases e with
  | textChanged text =>
    simp only [handle, changeText]
    split <;> rfl
  | navigateKey key =>
    have hbrowse (move : History → History) : (s.browse move).2.filter Call.isOutput = [] := by
      simp [browse, outputs_hideSuggestions, Call.isOutput]
    have hnext := s.navigates key
    simp only [handle]
    generalize s.navigate key = next at hnext
    cases hnext with
    | moved | ignored => rfl
    | back | forward => exact hbrowse _
    | hidden => exact s.outputs_hideSuggestions
  | submitLine line =>
    obtain ⟨text, ht⟩ := Option.isSome_iff_exists.1 h
    rw [handle_confirmed programs ht]
    rfl

theorem submissions_cons_of_edits {s : Session} {e : Event} (h : s.edits e) (es : List Event) :
    s.submissions programs (e :: es) =
      (s.handle programs e).session.submissions programs es := by
  simp [submissions, h]

theorem submissions_cons {s : Session} {e : Event} (h : s.edits e = false) (es : List Event) :
    s.submissions programs (e :: es) =
      ⟨s, e, s.handle programs e⟩ :: (s.handle programs e).session.submissions programs es := by
  simp [submissions, h]

theorem mem_submissions {s : Session} {events : List Event} {step : Step}
    (h : step ∈ s.submissions programs events) :
    (∃ line, step.event = .submitLine line) ∧ step.before.suggestions.confirmed? = none := by
  have hedits := (List.mem_filter.1 h).2
  exact edits_eq_false_iff.1 (by simpa using hedits)

theorem reaction_of_mem_steps {s : Session} {events : List Event} {step : Step}
    (h : step ∈ s.steps programs events) :
    step.reaction = step.before.handle programs step.event := by
  obtain ⟨front, e, back, -, rfl⟩ := (mem_steps_iff programs).1 h
  rfl

theorem submissions_of_agree {s t : Session} (h : Agree s t)
    (ht : t.suggestions.isActive = false) (events : List Event) :
    let alone := (s.submissions programs events).map (·.event)
    (t.calls programs alone).filter Call.isOutput =
        (s.calls programs events).filter Call.isOutput ∧
      (t.steps programs alone).map (·.reaction.flow) =
        (s.submissions programs events).map (·.reaction.flow) ∧
      Agree (s.after programs events) (t.after programs alone) := by
  -- The induction is on the longer run. The shorter one stands still where the longer one only edits,
  -- so that it never has a list on display.
  induction events generalizing s t with
  | nil => exact ⟨rfl, rfl, h⟩
  | cons e es ih =>
    cases he : s.edits e with
    | true =>
      have hedit := (handle_of_edits programs he).2
      obtain ⟨hcalls, hflows, hlast⟩ := ih (hedit.trans h) ht
      rw [submissions_cons_of_edits programs he]
      refine ⟨?_, hflows, hlast⟩
      rw [hcalls, calls_cons, List.filter_append, outputs_of_edits programs he, List.nil_append]
    | false =>
      obtain ⟨⟨line, rfl⟩, hs⟩ := edits_eq_false_iff.1 he
      obtain ⟨r, hr, hq⟩ := handle_submitLine_of_agree programs h hs
        (Suggestions.confirmed?_of_inactive ht) line
      have hagree : Agree (s.handle programs (.submitLine line)).session
          (t.handle programs (.submitLine line)).session := by
        rw [hr, hq]
        exact ⟨rfl, rfl, rfl, rfl, rfl, rfl, rfl⟩
      have hinactive :
          (t.handle programs (.submitLine line)).session.suggestions.isActive = false := by
        rw [hq]
        exact t.inactive_hideSuggestions
      have hcall : (t.handle programs (.submitLine line)).calls.filter Call.isOutput =
          (s.handle programs (.submitLine line)).calls.filter Call.isOutput := by
        rw [hr, hq]
        simp [Reaction.after, Reaction.display, outputs_hideSuggestions]
      have hflow : (t.handle programs (.submitLine line)).flow =
          (s.handle programs (.submitLine line)).flow := by
        rw [hr, hq]
        rfl
      obtain ⟨hcalls, hflows, hlast⟩ := ih hagree hinactive
      rw [submissions_cons programs he]
      refine ⟨?_, ?_, hlast⟩
      · rw [List.map_cons, calls_cons, calls_cons, List.filter_append, List.filter_append, hcall,
          hcalls]
      · rw [List.map_cons, steps_cons, List.map_cons, List.map_cons, hflow, hflows]

/-- Editing never decides what is carried out. From a session without a list on display, the
submissions of a run by themselves bring the same output and the same flows, and they end in the same
mode, environment, history and world, with the same saves. What was left out only went on. -/
theorem submissions_alone_suffice {s : Session} (h : s.suggestions.isActive = false)
    (events : List Event) :
    let alone := (s.submissions programs events).map (·.event)
    (s.calls programs alone).filter Call.isOutput =
        (s.calls programs events).filter Call.isOutput ∧
      (s.steps programs alone).map (·.reaction.flow) =
        (s.submissions programs events).map (·.reaction.flow) ∧
      Agree (s.after programs events) (s.after programs alone) ∧
      (∀ step ∈ s.submissions programs events,
        (∃ line, step.event = .submitLine line) ∧ step.before.suggestions.confirmed? = none) ∧
      ∀ step ∈ s.steps programs events,
        step.before.edits step.event → step.reaction.flow = .goOn := by
  obtain ⟨hcalls, hflows, hlast⟩ := submissions_of_agree programs (.refl s) h events
  refine ⟨hcalls, hflows, hlast, fun step => mem_submissions programs, ?_⟩
  intro step hstep hedits
  rw [reaction_of_mem_steps programs hstep]
  exact (handle_of_edits programs hedits).1

/-- A key that has highlighted `echo` makes the first of two lines a confirmation; the second one
is all that is carried out. -/
theorem submissions_alone_suffice_bare :
    let events : List Event :=
      [.textChanged "ec", .navigateKey .tab, .submitLine "ec", .submitLine "echo hi"]
    bare.suggestions.isActive = false ∧
      (bare.submissions .idle events).map (·.event) = [.submitLine "echo hi"] ∧
      (bare.calls .idle [.submitLine "echo hi"]).filter Call.isOutput =
        (bare.calls .idle events).filter Call.isOutput := by
  intro events
  have halone : (bare.submissions .idle events).map (·.event) = [.submitLine "echo hi"] := by
    rfl
  have h := (submissions_alone_suffice .idle (s := bare) rfl events).1
  rw [halone] at h
  exact ⟨rfl, halone, h⟩

end Session

end GuidedShell
