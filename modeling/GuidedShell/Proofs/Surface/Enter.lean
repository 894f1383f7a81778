import GuidedShell.Proofs.Surface.Listing

/-! What is shown is what Enter acts on, on the surface in memory and at a terminal. -/
namespace GuidedShell

open Surface Terminal

/-- A surface with this list shows the names and the highlighted row of the session, and that row is
there. -/
structure Session.Shows (s : Session) (l : Listing) : Prop where
  listed : l = s.suggestions.listed?
  sound : s.suggestions.Sound

namespace Session

variable (programs : Programs)

theorem shows_new (world : World) (environment : Environment) (index : CommandIndex)
    (history : History) : (new world environment index history).Shows none :=
  ⟨rfl, Suggestions.sound_hidden⟩

namespace Shows

variable {s : Session} {l : Listing}

/-- A surface that is told what a session makes of an event shows what is there afterwards. -/
theorem handle (h : s.Shows l) (e : Event) :
    (s.handle programs e).session.Shows (relistAll l (s.handle programs e).calls) := by
  constructor
  · rw [h.listed, relistAll_handle]
  · exact sound_handle programs h.sound e

theorem confirmed (h : s.Shows l) {names : List String} {i : Nat}
    (hl : l = some (names, some i)) :
    ∃ name, names[i]? = some name ∧ s.suggestions.confirmed? = some (name ++ " ") := by
  have hlist := h.listed.symm.trans hl
  have hrow : i < names.length := by
    unfold Suggestions.listed? at hlist
    split at hlist
    · cases hlist
    · obtain ⟨rfl, hi⟩ := Prod.mk.inj (Option.some.inj hlist)
      exact h.sound i hi
  have hname : names[i]? = some names[i] := List.getElem?_eq_getElem hrow
  exact ⟨names[i], hname,
    Suggestions.confirmed?_eq_some_iff.2 ⟨names, i, names[i], hlist, hname, rfl⟩⟩

theorem edits_iff (h : s.Shows l) (line : String) :
    s.edits (.submitLine line) ↔ ∃ names i, l = some (names, some i) := by
  constructor
  · intro hedits
    obtain ⟨text, htext⟩ := Option.isSome_iff_exists.1 hedits
    obtain ⟨names, i, name, hlist, -⟩ := Suggestions.confirmed?_eq_some_iff.1 htext
    exact ⟨names, i, h.listed.trans hlist⟩
  · rintro ⟨names, i, hl⟩
    obtain ⟨name, -, htext⟩ := h.confirmed hl
    exact Option.isSome_iff_exists.2 ⟨_, htext⟩

end Shows

/-- Over a whole run the surface in memory follows the session. -/
theorem shows_applyAll {s : Session} {b : Buffer} (h : s.Shows b.suggestions)
    (events : List Event) :
    (s.after programs events).Shows (b.applyAll (s.calls programs events)).suggestions := by
  induction events generalizing s b with
  | nil => exact h
  | cons e es ih =>
    have hstep := h.handle programs e
    rw [← Buffer.suggestions_applyAll] at hstep
    have hrest := ih hstep
    rwa [← Buffer.applyAll_append] at hrest

end Session

namespace Terminal.Editor

variable (programs : Programs)

/-- The terminal shows what Enter will act on. -/
def Faithful (e : Editor) : Prop := e.session.Shows e.display.suggestions

theorem suggestions_finishLine (d : Display) : d.finishLine.suggestions = d.suggestions := by
  unfold Display.finishLine
  split
  · rfl
  · exact d.suggestions_print "\n"

theorem faithful_handle {e : Editor} (h : e.Faithful) (event : Event) :
    (e.handle programs event).1.Faithful := by
  have hstep := Session.Shows.handle programs h event
  rw [← Display.suggestions_applyAll] at hstep
  exact hstep

/-- Nothing that happens at the terminal leaves another list there than the session has. -/
theorem faithful_act {e : Editor} (h : e.Faithful) (a : Action) : (e.act programs a).Faithful := by
  cases a with
  | ready =>
    have hlist : e.ready.1.display.suggestions = e.display.suggestions :=
      suggestions_finishLine e.display
    unfold Faithful act
    dsimp only
    rw [hlist]
    exact h
  | look line =>
    unfold act look
    dsimp only
    split
    · exact h
    · exact faithful_handle programs (e := { e with lastText := line }) h _
  | navigate key => exact faithful_handle programs h (.navigateKey key)
  | enter line => exact faithful_handle programs h (.submitLine line)

theorem faithful_acts {e : Editor} (h : e.Faithful) (actions : List Action) :
    (actions.foldl (act programs) e).Faithful := by
  induction actions generalizing e with
  | nil => exact h
  | cons a as ih => exact ih (faithful_act programs h a)

theorem ready_enter {e : Editor} {text : String}
    (h : e.session.suggestions.confirmed? = some text) (line : String) :
    (e.act programs (.enter line)).ready.2 = text := by
  have hreact := Session.handle_confirmed programs h line
  unfold act handle
  dsimp only
  rw [hreact]
  rfl

end Terminal.Editor

variable (programs : Programs)

/-- What is shown is what Enter acts on. After any events from a new session, the surface in memory
shows the list of the session. Enter confirms just when a row is highlighted there, and puts the name in
it into the input. After anything that can happen at a terminal, the same holds there. -/
theorem shown_is_acted_on (world : World) (environment : Environment) (index : CommandIndex)
    (history : History) :
    let first := Session.new world environment index history
    (∀ (events : List Event) (line : String),
      let s := first.after programs events
      let b := Buffer.empty.applyAll (first.calls programs events)
      s.Shows b.suggestions ∧
        (s.edits (.submitLine line) ↔ ∃ names i, b.suggestions = some (names, some i)) ∧
        ∀ names i, b.suggestions = some (names, some i) → ∃ name, names[i]? = some name ∧
          (b.applyAll (s.handle programs (.submitLine line)).calls).input =
            some (name ++ " ", true)) ∧
    ∀ (actions : List Editor.Action) (line : String),
      let e := actions.foldl (Editor.act programs) (.start first)
      e.session.Shows e.display.suggestions ∧
        (e.session.edits (.submitLine line) ↔
          ∃ names i, e.display.suggestions = some (names, some i)) ∧
        ∀ names i, e.display.suggestions = some (names, some i) →
          ∃ name, names[i]? = some name ∧
            (e.act programs (.enter line)).ready.2 = name ++ " " := by
  intro first
  have hnew : first.Shows none := Session.shows_new world environment index history
  constructor
  · intro events line s b
    have hshows : s.Shows b.suggestions :=
      Session.shows_applyAll programs (b := .empty) hnew events
    refine ⟨hshows, hshows.edits_iff line, ?_⟩
    intro names i hl
    obtain ⟨name, hname, htext⟩ := hshows.confirmed hl
    refine ⟨name, hname, ?_⟩
    rw [Session.handle_confirmed programs htext]
    rfl
  · intro actions line e
    have hshows : e.Faithful := Editor.faithful_acts programs (e := .start first) hnew actions
    refine ⟨hshows, Session.Shows.edits_iff hshows line, ?_⟩
    intro names i hl
    obtain ⟨name, hname, htext⟩ := Session.Shows.confirmed hshows hl
    exact ⟨name, hname, Editor.ready_enter programs htext line⟩

theorem shown_is_acted_on_bare :
    let e := [.ready, .look "ec", .navigate .tab].foldl (Editor.act .idle) (.start .bare)
    e.display.suggestions = some (["echo"], some 0) ∧
      (e.act .idle (.enter "ec")).ready.2 = "echo " := by
  intro e
  have hlist : e.display.suggestions = some (["echo"], some 0) := rfl
  have hlaw := (shown_is_acted_on .idle ⟨.empty, [], [], none⟩ ⟨[], [FilePath.slash], false⟩ .empty
    .empty).2 [.ready, .look "ec", .navigate .tab] "ec"
  obtain ⟨name, hname, htext⟩ := hlaw.2.2 ["echo"] 0 hlist
  have hname : "echo" = name := Option.some.inj hname
  subst hname
  exact ⟨hlist, htext⟩

end GuidedShell
