import GuidedShell.Proofs.Session.Submission
import GuidedShell.Proofs.Text.Trim

/-! When a session waits for the reply to a menu of corrections, and what it makes of the reply. -/
namespace GuidedShell

namespace Command

theorem Builtin.outcome_ne_unresolved (programs : Programs) (b : Builtin) (args : List String)
    (s : Setting) : (b.run programs args s).outcome ≠ .ok .unresolved := by
  cases b with
  | exit | echo | pwd | history | clear | help => exact nofun
  | type =>
    simp only [run, runType]
    split
    · exact nofun
    · split
      · exact nofun
      · split <;> exact nofun
  | cd =>
    simp only [run, runCd]
    split <;> exact nofun

theorem Builtin.ofName?_isSome {name : String} (h : name ∈ names) : (ofName? name).isSome := by
  obtain ⟨b, hb, rfl⟩ := List.mem_map.1 h
  exact List.find?_isSome.2 ⟨b, hb, by simp⟩

theorem not_mem_names_of_unresolved {programs : Programs} {s : Setting} {name : String}
    {args : List String} (h : (dispatch programs s name args).outcome = .ok .unresolved) :
    name ∉ Builtin.names := by
  intro hmem
  obtain ⟨b, hb⟩ := Option.isSome_iff_exists.1 (Builtin.ofName?_isSome hmem)
  have hrun : dispatch programs s name args = b.run programs args s := by
    simp [dispatch, dispatch?, hb]
  exact b.outcome_ne_unresolved programs args s (hrun ▸ h)

end Command

namespace Correction

theorem offer?_eq_some_iff {typo : String} {args known : List String} {c : Correction} :
    offer? typo args known = some c ↔ rank typo known ≠ [] ∧ c = ⟨typo, args, rank typo known⟩ := by
  cases hr : rank typo known with
  | nil => simp [offer?, hr]
  | cons name names =>
    simp only [offer?, hr, Option.some.injEq, ne_eq, reduceCtorEq, not_false_eq_true, true_and]
    exact eq_comm

theorem resolve_ok {c : Correction} {reply text : String} (h : c.resolve reply = .ok text) :
    ∃ (i : Nat) (name : String), c.candidates[i]? = some name ∧ text = name ++ " " ∧
      Chars.Numeral.read .word (Text.trim reply).toList = .value ((i : Int) + 1) := by
  unfold resolve at h
  dsimp only at h
  split at h
  · cases h
  · cases h
  · rename_i v hv
    split at h
    · cases h
    · split at h
      · rename_i hlow _ name hname
        refine ⟨v.toNat - 1, name, hname, (Except.ok.inj h).symm, ?_⟩
        have hi : ((v.toNat - 1 : Nat) : Int) + 1 = v := by omega
        rw [hv, hi]
      · cases h

theorem resolve_error {c : Correction} {reply : String} {failure : Failure}
    (h : c.resolve reply = .error failure) :
    failure = .correctionAborted ∨
      failure = .invalidChoice (Text.trim reply) c.candidates.length := by
  unfold resolve at h
  dsimp only at h
  split at h
  · exact .inl (Except.error.inj h).symm
  · exact .inr (Except.error.inj h).symm
  · split at h
    · exact .inr (Except.error.inj h).symm
    · split at h
      · cases h
      · exact .inr (Except.error.inj h).symm

end Correction

namespace Session

variable (programs : Programs)

/-- In this session the event is a command that stands for nothing, and the menu is what is offered
in its place. -/
structure Offers (s : Session) (e : Event) (menu : Correction) : Prop where
  normal : s.mode = .normal
  command : ∃ line, e = .submitLine line ∧ s.suggestions.confirmed? = none ∧
    Text.words (Text.trim line) = menu.typo :: menu.args ∧
    menu.typo ∉ Command.Builtin.names ∧
    (Command.dispatch programs (s.record (Text.trim line)).setting menu.typo menu.args).outcome =
      .ok .unresolved
  ranked : Correction.rank menu.typo s.known ≠ []
  candidates : menu.candidates = Correction.rank menu.typo s.known

theorem mode_shutdown (s : Session) : s.shutdown.1.mode = s.mode := by
  rw [shutdown_eq]

theorem awaiting_report_iff {s : Session} (hs : s.mode = .normal) {name : String}
    {args : List String} {outcome : Except Failure Outcome} {menu : Correction} :
    (s.report name args outcome).1.mode = .awaitingCorrection menu ↔
      outcome = .ok .unresolved ∧ Correction.offer? name args s.known = some menu := by
  unfold report
  split
  · simp [hs]
  · simp [hs]
  · unfold offerCorrections
    split
    · rename_i h
      simp [h]
    · rename_i h
      simp [h, hs]
  · simp [hs]

theorem awaiting_run_iff {s : Session} (hs : s.mode = .normal) {name : String}
    {args : List String} {menu : Correction} :
    (s.run programs name args).session.mode = .awaitingCorrection menu ↔
      (Command.dispatch programs s.setting name args).outcome = .ok .unresolved ∧
        Correction.offer? name args s.known = some menu := by
  rw [run_eq]
  dsimp only
  generalize Command.dispatch programs s.setting name args = effect
  have hadopt : (s.adopt effect).mode = .normal := hs
  have hknown : (s.adopt effect).known = s.known := rfl
  split
  · rw [mode_shutdown, awaiting_report_iff hadopt, hknown]
  · rw [awaiting_report_iff hadopt, hknown]

/-- A submission that confirms nothing waits afterwards just when it offers the menu. -/
theorem awaiting_obey_iff {s : Session} (hs : s.suggestions.confirmed? = none) {line : String}
    {menu : Correction} :
    ((s.record (Text.trim line)).obey programs (Text.trim line)).session.mode =
        .awaitingCorrection menu ↔
      Offers programs s (.submitLine line) menu := by
  have hmode := mode_record s (Text.trim line)
  unfold obey
  rw [hmode]
  cases hm : s.mode with
  | awaitingCorrection pending =>
    have hnone : ¬ Offers programs s (.submitLine line) menu := fun h => by
      rw [h.normal] at hm
      cases hm
    dsimp only
    rw [answer_session]
    simp [hnone]
  | normal =>
    dsimp only
    cases hw : Text.words (Text.trim line) with
    | nil =>
      have hnone : ¬ Offers programs s (.submitLine line) menu := by
        rintro ⟨-, ⟨line', hline, -, hwords, -⟩, -, -⟩
        cases hline
        simp [hw] at hwords
      simp [hnone, hm]
    | cons name args =>
      dsimp only
      rw [awaiting_run_iff programs (hmode.trans hm), known_record,
        Correction.offer?_eq_some_iff]
      constructor
      · rintro ⟨hout, hrank, rfl⟩
        exact ⟨hm, ⟨line, rfl, hs, hw, Command.not_mem_names_of_unresolved hout, hout⟩, hrank, rfl⟩
      · rintro ⟨-, ⟨line', hline, -, hwords, -, hout⟩, hrank, hcandidates⟩
        cases hline
        rw [hw] at hwords
        obtain ⟨rfl, rfl⟩ := List.cons.inj hwords
        refine ⟨hout, hrank, ?_⟩
        rw [← hcandidates]

/-- The mode after an event: a menu stays through editing, and only an unresolved command brings
one. -/
theorem awaiting_handle_iff {s : Session} {e : Event} {menu : Correction} :
    (s.handle programs e).session.mode = .awaitingCorrection menu ↔
      (s.mode = .awaitingCorrection menu ∧ s.edits e) ∨ Offers programs s e menu := by
  cases he : s.edits e with
  | true =>
    rw [(handle_of_edits programs he).2.mode]
    have hnone : ¬ Offers programs s e menu := by
      rintro ⟨-, ⟨line, rfl, hc, -⟩, -, -⟩
      simp [edits, hc] at he
    simp [hnone]
  | false =>
    obtain ⟨⟨line, rfl⟩, hc⟩ := edits_eq_false_iff.1 he
    rw [handle_eq_obey programs hc, ← awaiting_obey_iff programs hc]
    simp [Reaction.after, Reaction.display, display]

/-- Over a whole run: the session waits just when some command has brought the menu and everything
since then has been editing. -/
theorem awaiting_after_iff {s : Session} (hs : s.mode = .normal) {events : List Event}
    {menu : Correction} :
    (s.after programs events).mode = .awaitingCorrection menu ↔
      ∃ before e rest, events = before ++ e :: rest ∧
        Offers programs (s.after programs before) e menu ∧
        ∀ step ∈ (s.after programs (before ++ [e])).steps programs rest,
          step.before.edits step.event := by
  induction events using List.reverseRecOn with
  | nil => simp [hs]
  | append_singleton es e ih =>
    rw [after_append, after_cons, after_nil, awaiting_handle_iff, ih]
    constructor
    · rintro (⟨⟨before, e', rest, rfl, hoffer, hrest⟩, he⟩ | hoffer)
      · refine ⟨before, e', rest ++ [e], by simp, hoffer, ?_⟩
        rw [steps_append, ← after_append, List.append_assoc]
        intro step hstep
        rcases List.mem_append.1 hstep with hstep | hstep
        · exact hrest step hstep
        · rw [steps_cons, steps_nil, List.mem_singleton] at hstep
          rw [hstep]
          exact he
      · exact ⟨es, e, [], rfl, hoffer, by simp⟩
    · rintro ⟨before, e', rest, hsplit, hoffer, hrest⟩
      rcases List.eq_nil_or_concat rest with rfl | ⟨rest, e'', rfl⟩
      · obtain ⟨rfl, he⟩ := List.append_inj' hsplit rfl
        cases he
        exact .inr hoffer
      · rw [List.concat_eq_append] at hsplit hrest
        rw [← List.cons_append, ← List.append_assoc] at hsplit
        obtain ⟨rfl, he⟩ := List.append_inj' hsplit rfl
        cases he
        rw [steps_append, ← after_append, List.append_assoc] at hrest
        refine .inl ⟨⟨before, e', rest, rfl, hoffer, fun step hstep => ?_⟩, ?_⟩
        · exact hrest step (List.mem_append_left _ hstep)
        · exact hrest _ (List.mem_append_right _ (List.mem_singleton.2 rfl))

/-- What is told of a reply: the candidate that it chooses goes into the input, or it is said why
none does. -/
inductive Answers (menu : Correction) (reply : String) : Surface.Call → Prop
  | chosen {i : Nat} {name : String} (candidate : menu.candidates[i]? = some name)
    (number : Chars.Numeral.read .word reply.toList = .value ((i : Int) + 1)) :
    Answers menu reply (.setInput (name ++ " ") true)
  | aborted : Answers menu reply (.print "--- Aborted ---\n")
  | invalid : Answers menu reply (.print "--- Invalid choice. Aborted. ---\n")

theorem answers_answer (s : Session) (menu : Correction) {reply : String}
    (htrim : Text.trim reply = reply) :
    ∃ call, s.answer menu reply = ⟨{ s with mode := .normal }, .goOn, [call]⟩ ∧
      Answers menu reply call := by
  unfold answer
  cases hr : menu.resolve reply with
  | ok text =>
    obtain ⟨i, name, hname, rfl, hnumber⟩ := Correction.resolve_ok hr
    rw [htrim] at hnumber
    exact ⟨_, rfl, .chosen hname hnumber⟩
  | error failure =>
    rcases Correction.resolve_error hr with rfl | rfl
    · exact ⟨_, rfl, .aborted⟩
    · exact ⟨_, rfl, .invalid⟩

/-- A reply ends the waiting, starts no command, and tells one thing besides putting the list away. -/
theorem handle_reply {s : Session} {menu : Correction} (hm : s.mode = .awaitingCorrection menu)
    (hs : s.suggestions.confirmed? = none) (line : String) :
    let r := s.handle programs (.submitLine line)
    r.session.mode = .normal ∧ r.flow = .goOn ∧ r.session.environment = s.environment ∧
      r.session.world = s.world ∧ (∀ others, s.handle others (.submitLine line) = r) ∧
      ∃ hide call, r.calls = hide ++ [call] ∧ (hide = [] ∨ hide = [.hideSuggestions]) ∧
        Answers menu (Text.trim line) call := by
  have htrim := Text.trim_trim line
  have hreact (ps : Programs) := handle_eq_obey ps hs line
  generalize Text.trim line = reply at htrim hreact ⊢
  obtain ⟨call, hanswer, hcall⟩ := (s.record reply).answers_answer menu htrim
  have hobey (ps : Programs) :
      (s.record reply).obey ps reply = ⟨{ s.record reply with mode := .normal }, .goOn, [call]⟩ := by
    unfold obey
    rw [mode_record, hm]
    exact hanswer
  dsimp only
  rw [hreact programs, hobey programs]
  refine ⟨rfl, rfl, rfl, rfl, ?_, s.hideSuggestions.2, call, rfl, ?_, hcall⟩
  · intro others
    rw [hreact others, hobey others]
  · unfold hideSuggestions
    split
    · exact .inr rfl
    · exact .inl rfl

/-- The law of the correction flow in every session that events can bring about. It waits with a menu
just if it did so before and the event only edits, or if the event is a command that stands for
nothing and has near names. So it waits just if some command has brought the menu and all events since
have edited. A reply brings it back and carries out nothing. -/
theorem correction_flow (world : World) (environment : Environment) (index : CommandIndex)
    (history : History) (events : List Event) (e : Event) :
    let s := (new world environment index history).after programs events
    let r := s.handle programs e
    s.known = index.known Command.Builtin.names ∧
      (∀ menu, r.session.mode = .awaitingCorrection menu ↔
        (s.mode = .awaitingCorrection menu ∧ s.edits e) ∨ Offers programs s e menu) ∧
      (∀ menu, s.mode = .awaitingCorrection menu ↔
        ∃ before e rest, events = before ++ e :: rest ∧
          Offers programs ((new world environment index history).after programs before) e menu ∧
          ∀ step ∈ ((new world environment index history).after programs (before ++ [e])).steps
              programs rest,
            step.before.edits step.event) ∧
      ∀ menu, s.mode = .awaitingCorrection menu → s.edits e = false →
        r.session.mode = .normal ∧ r.flow = .goOn ∧ r.session.environment = s.environment ∧
          r.session.world = s.world ∧ (∀ others, s.handle others e = r) ∧
          ∃ line, e = .submitLine line ∧
            ∃ hide call, r.calls = hide ++ [call] ∧ (hide = [] ∨ hide = [.hideSuggestions]) ∧
              Answers menu (Text.trim line) call := by
  intro s r
  refine ⟨known_after programs _ events, fun menu => awaiting_handle_iff programs,
    fun menu => awaiting_after_iff programs rfl, ?_⟩
  intro menu hm he
  obtain ⟨⟨line, rfl⟩, hs⟩ := edits_eq_false_iff.1 he
  obtain ⟨hmode, hflow, henv, hworld, hothers, hcalls⟩ := handle_reply programs hm hs line
  exact ⟨hmode, hflow, henv, hworld, hothers, line, rfl, hcalls⟩

/-- A slip in the name of a builtin brings the menu, and the number of the candidate puts it into the
input. -/
theorem correction_flow_bare :
    let menu : Correction := ⟨"ecko", ["hi"], ["echo"]⟩
    let s := bare.after .idle [.submitLine "ecko hi"]
    s.mode = .awaitingCorrection menu ∧
      (s.handle .idle (.submitLine "1")).session.mode = .normal ∧
      (s.handle .idle (.submitLine "1")).calls = [.setInput "echo " true] := by
  intro menu s
  have hmode : s.mode = .awaitingCorrection menu := by rfl
  have hlaw := correction_flow .idle ⟨.empty, [], [], none⟩ ⟨[], [FilePath.slash], false⟩ .empty
    .empty [.submitLine "ecko hi"] (.submitLine "1")
  have hreply := hlaw.2.2.2 menu hmode rfl
  exact ⟨hmode, hreply.1, rfl⟩

end Session

end GuidedShell
