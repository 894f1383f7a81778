import GuidedShell.Proofs.History.Walk
import GuidedShell.Proofs.Session.Log

/-! Keys that walk through the history. They alone move the cursor between one submission and the
next. -/
namespace GuidedShell.Session

variable (programs : Programs) {s : Session} {e : Event} {d : History.Stride}

/-- The step through the history that an event makes, if it makes one. Where the list shows, two of
the keys move through the list instead. -/
def stride? (s : Session) : Event → Option History.Stride
  | .navigateKey .historyBack => some .back
  | .navigateKey .historyForward => some .forward
  | .navigateKey .up => if s.suggestions.isActive then none else some .back
  | .navigateKey .down => if s.suggestions.isActive then none else some .forward
  | .navigateKey .tab | .navigateKey .escape | .textChanged _ | .submitLine _ => none

def strides (s : Session) (events : List Event) : List History.Stride :=
  (s.steps programs events).flatMap fun t => (t.before.stride? t.event).toList

/-- The events only edit the input: a submission among them confirms a suggestion. -/
def OnlyEdits (s : Session) (events : List Event) : Prop :=
  ∀ t ∈ s.steps programs events, t.before.edits t.event = true

theorem handle_of_stride? (h : s.stride? e = some d) :
    s.handle programs e = ⟨(s.browse (·.stride d)).1, .goOn, (s.browse (·.stride d)).2⟩ := by
  cases e with
  | textChanged | submitLine => cases h
  | navigateKey key =>
    cases key with
    | tab | escape => cases h
    | historyBack | historyForward =>
      cases h
      rfl
    | up | down =>
      cases hactive : s.suggestions.isActive with
      | true => simp [stride?, hactive] at h
      | false =>
        have hd := h
        simp only [stride?, hactive, Bool.false_eq_true, if_false, Option.some.injEq] at hd
        subst hd
        simp only [handle, navigate, hactive]
        rfl

theorem history_of_stride? (h : s.stride? e = some d) :
    (s.handle programs e).session.history = s.history.stride d := by
  have hbrowse : (s.browse (·.stride d)).1.history = s.hideSuggestions.1.history.stride d := rfl
  rw [handle_of_stride? programs h, hbrowse, history_hideSuggestions]

/-- Every other edit leaves the cursor where it is. -/
theorem history_of_no_stride (he : s.edits e = true) (h : s.stride? e = none) :
    (s.handle programs e).session.history = s.history := by
  cases e with
  | textChanged text => rfl
  | submitLine line =>
    obtain ⟨text, ht⟩ := Option.isSome_iff_exists.1 he
    rw [handle_confirmed programs ht]
  | navigateKey key =>
    cases hactive : s.suggestions.isActive with
    | true =>
      cases key with
      | historyBack | historyForward => cases h
      | up | down | tab =>
        simp only [handle, navigate, hactive]
        rfl
      | escape => exact s.history_hideSuggestions
    | false =>
      cases key with
      | historyBack | historyForward => cases h
      | up | down => simp [stride?, hactive] at h
      | tab => simp only [handle, navigate, hactive]
      | escape => exact s.history_hideSuggestions

theorem strides_cons (s : Session) (e : Event) (es : List Event) :
    s.strides programs (e :: es) =
      (s.stride? e).toList ++ (s.handle programs e).session.strides programs es := rfl

theorem strides_concat (s : Session) (es : List Event) (e : Event) :
    s.strides programs (es ++ [e]) =
      s.strides programs es ++ ((s.after programs es).stride? e).toList := by
  have hlast : (s.after programs es).strides programs [e] =
      ((s.after programs es).stride? e).toList := List.append_nil _
  unfold strides at hlast ⊢
  rw [steps_append, List.flatMap_append, hlast]

/-- Between submissions the cursor walks as the keys say, whatever comes between them. -/
theorem history_after_edits {events : List Event} (h : s.OnlyEdits programs events) :
    (s.after programs events).history = s.history.walk (s.strides programs events) := by
  induction events generalizing s with
  | nil => rfl
  | cons e es ih =>
    have he : s.edits e = true := h _ List.mem_cons_self
    have hrest : (s.handle programs e).session.OnlyEdits programs es := fun t ht =>
      h t (List.mem_cons_of_mem _ ht)
    rw [after_cons, ih hrest, strides_cons]
    cases hd : s.stride? e with
    | none => rw [history_of_no_stride programs he hd]; rfl
    | some d => rw [history_of_stride? programs hd]; rfl

/-- An event walks through the history and places this text: the list is put away if it shows, the
cursor moves, and the entry that it has come to is put into the input, or nothing after the newest. -/
structure Walks (s : Session) (d : History.Stride) (r : Reaction) (text : String) : Prop where
  calls : r.calls =
    (if s.suggestions.isActive then [.hideSuggestions] else []) ++ [.setInput text false]
  hidden : r.session.suggestions.isActive = false
  entries : r.session.history.entries = s.history.entries
  cursor : r.session.history.cursor =
    match d with
    | .back => s.history.cursor - 1
    | .forward => min (s.history.cursor + 1) s.history.entries.length
  entry : r.session.history.cursor < s.history.entries.length →
    s.history.entries[r.session.history.cursor]? = some text
  blank : r.session.history.cursor = s.history.entries.length → text = ""

theorem walks_of_stride? (hc : s.history.cursor ≤ s.history.entries.length)
    (h : s.stride? e = some d) :
    s.Walks d (s.handle programs e) (s.history.stride d).current := by
  have hhistory := history_of_stride? programs h
  have hentries : (s.handle programs e).session.history.entries = s.history.entries := by
    rw [hhistory, History.entries_stride]
  refine ⟨?_, ?_, hentries, ?_, fun hlt => ?_, fun hend => ?_⟩
  · have hbrowse : (s.browse (·.stride d)).2 =
        s.hideSuggestions.2 ++ [.setInput (s.hideSuggestions.1.history.stride d).current false] := rfl
    have hhide : s.hideSuggestions.2 =
        if s.suggestions.isActive then [.hideSuggestions] else [] := by
      unfold hideSuggestions
      split <;> rfl
    rw [handle_of_stride? programs h, hbrowse, hhide, history_hideSuggestions]
  · rw [handle_of_stride? programs h]
    exact s.inactive_hideSuggestions
  · rw [hhistory]
    cases d with
    | back => rfl
    | forward => exact History.cursor_forward hc
  · rw [hhistory] at hlt ⊢
    rw [← History.entries_stride s.history d] at hlt ⊢
    exact History.getElem?_current hlt
  · rw [hhistory, ← History.entries_stride s.history d] at hend
    exact History.current_of_blank hend

/-- After only edits, the last of `k` steps back from the blank line places the entry that is `k` before
the end, or the oldest one. -/
theorem walks_back_of_blank (hend : s.history.cursor = s.history.entries.length)
    {later : List Event} {k : Nat} (hk : 1 ≤ k) (hlater : s.OnlyEdits programs later)
    (hback : (s.after programs later).stride? e = some .back)
    (hstrides : s.strides programs (later ++ [e]) = List.replicate k .back) :
    ∃ text, (s.after programs later).Walks .back ((s.after programs later).handle programs e) text ∧
      (0 < s.history.entries.length →
        s.history.entries[s.history.entries.length - k]? = some text) ∧
      (s.history.entries.length = 0 → text = "") := by
  have hc : (s.after programs later).history.cursor ≤
      (s.after programs later).history.entries.length :=
    cursor_after_le programs (Nat.le_of_eq hend) later
  rw [strides_concat, hback, Option.toList_some] at hstrides
  have hplace : (s.after programs later).history.stride .back =
      s.history.walk (List.replicate k .back) := by
    rw [history_after_edits programs hlater, ← History.walk_concat, hstrides]
  have hwalks := walks_of_stride? programs hc hback
  rw [hplace] at hwalks
  refine ⟨_, hwalks, fun hne => ?_, fun hempty => ?_⟩
  · exact History.getElem?_walk_back hend hk hne
  · exact History.current_walk_of_empty hend hempty k

/-- The keys walk through the history as through a list with a cursor. Each key puts the list away and
places the entry that it comes to. Past the newest entry, where a submission takes the cursor, as many
steps back as there are entries come to each of them once, and more of them stay at the oldest. A step
back and a step forward undo each other, but for the ends, where the cursor stays. Nothing else between
two submissions moves it. -/
theorem history_keys_walk {s₀ : Session} (h : s₀.history.cursor ≤ s₀.history.entries.length)
    (events : List Event) :
    let s := s₀.after programs events
    let n := s.history.entries.length
    s.history.cursor ≤ n ∧
    (∀ e d, s.stride? e = some d → ∃ text, s.Walks d (s.handle programs e) text) ∧
    (∀ line, s.edits (.submitLine line) = false →
      let t := (s.handle programs (.submitLine line)).session
      let m := t.history.entries.length
      ∀ later e k, 1 ≤ k → t.OnlyEdits programs later →
        (t.after programs later).stride? e = some .back →
        t.strides programs (later ++ [e]) = List.replicate k .back →
        ∃ text,
          (t.after programs later).Walks .back ((t.after programs later).handle programs e) text ∧
          (k ≤ m → t.history.entries[m - k]? = some text) ∧
          (m < k → 1 ≤ m → t.history.entries[0]? = some text) ∧
          (m = 0 → text = "")) ∧
    ∀ later, s.OnlyEdits programs later →
      let ds := s.strides programs later
      let last := (s.after programs later).history
      (ds = [] → last = s.history) ∧
      (0 < s.history.cursor → s.history.cursor < n →
        ds = [.back, .forward] ∨ ds = [.forward, .back] → last = s.history) ∧
      (s.history.cursor = 0 → ds = [.back] → last = s.history) ∧
      (s.history.cursor = n → ds = [.forward] → last = s.history) := by
  intro s n
  have hc : s.history.cursor ≤ n := cursor_after_le programs h events
  refine ⟨hc, fun e d hd => ⟨_, walks_of_stride? programs hc hd⟩, ?_, ?_⟩
  · intro line he t m later e k hk hlater hback hstrides
    obtain ⟨text, hwalks, hentry, hblank⟩ :=
      walks_back_of_blank programs (cursor_handle_submission programs he) hk hlater hback hstrides
    refine ⟨text, hwalks, fun hkm => hentry (Nat.lt_of_lt_of_le hk hkm), fun hmk hm => ?_, hblank⟩
    have holdest := hentry hm
    have hzero : t.history.entries.length - k = 0 := by omega
    rwa [hzero] at holdest
  · intro later hlater ds last
    have hwalk : last = s.history.walk ds := history_after_edits programs hlater
    refine ⟨fun hds => ?_, fun hpos hlt hds => ?_, fun hzero hds => ?_, fun hend hds => ?_⟩
    · rw [hwalk, hds, History.walk_nil]
    · obtain hds | hds := hds
      · rw [hwalk, hds]
        exact History.forward_back hpos hc
      · rw [hwalk, hds]
        exact History.back_forward hlt
    · rw [hwalk, hds]
      exact History.back_of_oldest hzero
    · rw [hwalk, hds]
      exact History.forward_of_blank hend

/-- After two submissions, with a suggestion confirmed and the text edited in between, the second step
back places the older line. -/
theorem history_keys_walk_older :
    let submissions : List Event := [.submitLine "echo a"]
    let later : List Event := [.navigateKey .up, .textChanged "ec", .navigateKey .tab,
      .submitLine "ec", .textChanged "ec"]
    let s := bare.after .idle submissions
    let t := (s.handle .idle (.submitLine "echo b")).session
    bare.history.cursor ≤ bare.history.entries.length ∧ t.OnlyEdits .idle later ∧
      t.strides .idle (later ++ [.navigateKey .historyBack]) = [.back, .back] ∧
      ((t.after .idle later).handle .idle (.navigateKey .historyBack)).calls =
        [.hideSuggestions, .setInput "echo a" false] := by
  intro submissions later s t
  have hstart : bare.history.cursor ≤ bare.history.entries.length := Nat.le_refl 0
  have honly : t.OnlyEdits .idle later := by
    unfold OnlyEdits
    decide +kernel
  have hstrides : t.strides .idle (later ++ [.navigateKey .historyBack]) = [.back, .back] := by
    decide +kernel
  obtain ⟨-, -, hback, -⟩ := history_keys_walk .idle hstart submissions
  obtain ⟨text, hwalks, hentry, -, -⟩ := hback "echo b" (by decide +kernel) later
    (.navigateKey .historyBack) 2 (by decide) honly rfl hstrides
  have hentries : t.history.entries = ["echo a", "echo b"] := by decide +kernel
  have hactive : (t.after .idle later).suggestions.isActive = true := by decide +kernel
  have htext := hentry (by rw [hentries]; decide)
  rw [hentries] at htext
  cases htext
  refine ⟨hstart, honly, hstrides, ?_⟩
  have hcalls := hwalks.calls
  rwa [hactive] at hcalls

end GuidedShell.Session
