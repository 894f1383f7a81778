import GuidedShell.Proofs.FileSystem.Tree
import GuidedShell.Proofs.Session.WorkingDirectory
import GuidedShell.Proofs.Text.Bytes

/-! Changing the directory in two steps and in one. Where a path leads on from a directory does not
depend on how the directory was reached. -/
namespace GuidedShell

namespace FileSystem

variable {fs : FileSystem} {here loc l whole : Location} {dir p q : FilePath}

theorem leads_of_absolute (hp : FilePath.isAbsolute p = true) (h : fs.absolute here p = .ok loc) :
    Leads fs .look maxLinks [] (FilePath.steps p) loc := by
  have hreach := (reach_eq_ok_iff.1 (absolute_eq_ok_iff.1 h).2.2.1).2
  have horigin : origin here p = [] := if_pos hp
  rwa [horigin] at hreach

/-- A path in two parts leads where its second part leads from the canonical place of the first.
The links on the way to that place count for the whole path alone, so it may be refused where its
parts are not, but it cannot lead elsewhere. -/
theorem eq_of_absolute_append (hdir : FilePath.isAbsolute dir = true) (hp : p ≠ []) (hq : q ≠ [])
    (hrelative : FilePath.isAbsolute q = false) (hstands : fs.Stands loc)
    (hsearched : fs.Searched loc)
    (hfirst : fs.absolute here (FilePath.join dir p) = .ok loc)
    (hsecond : fs.absolute loc (FilePath.join loc.path q) = .ok l)
    (hwhole : fs.absolute here (FilePath.join dir (p ++ FilePath.slash :: q)) = .ok whole) :
    l = whole := by
  have hdirNe : dir ≠ [] := by
    rintro rfl
    cases hdir
  have habsolute := FilePath.isAbsolute_join hdir p
  have hspelled := isSpelled_of_absolute habsolute hfirst
  -- The whole way comes through a place to which the first part leads, and that is `loc`.
  have hway := leads_of_absolute (FilePath.isAbsolute_join hdir _) hwhole
  rw [FilePath.steps_join_append hdirNe hp hq] at hway
  obtain ⟨there, k, hrest, hthere⟩ := hway.split_parts (FilePath.steps_ne_nil hq)
  have heq : there = loc := hthere.unique (leads_of_absolute habsolute hfirst)
  rw [heq] at hrest
  -- The second way starts at the root again, and comes to `loc` by the names of `loc`.
  have hagain := leads_of_absolute (FilePath.isAbsolute_join loc.isAbsolute_path q) hsecond
  rw [FilePath.steps_join loc.path_ne_nil hq hrelative, hspelled.parts_location] at hagain
  exact hagain.unique (hstands.leads_append hsearched hspelled hrest)

/-- A dot after the path of a directory stays there. -/
theorem Stands.absolute_dot (h : fs.Stands loc) (hsearched : fs.Searched loc)
    (hspelled : IsSpelled loc) (hcheck : checkPath loc.path = .ok ()) :
    fs.absolute here (FilePath.join loc.path FilePath.here) = .ok loc := by
  have habsolute := FilePath.isAbsolute_join loc.isAbsolute_path FilePath.here
  have hzero : 0 ∉ FilePath.join loc.path FilePath.here := by
    intro hmem
    rcases FilePath.mem_of_mem_join hmem with hpath | hrest
    · exact zero_not_mem_of_checkPath hcheck hpath
    · revert hrest
      decide
  have hne : FilePath.join loc.path FilePath.here ≠ [] := by
    intro hnil
    rw [hnil] at habsolute
    cases habsolute
  have horigin : FileSystem.origin here (FilePath.join loc.path FilePath.here) = [] :=
    if_pos habsolute
  have hstay : Leads fs .look maxLinks loc [FilePath.here] loc :=
    .stay h.isOpen (.inr ⟨rfl, hsearched.permits⟩) .arrive
  refine absolute_eq_ok_iff.2 ⟨hzero, .inl habsolute, reach_eq_ok_iff.2 ⟨hne, ?_⟩, by simp [h.node?]⟩
  rw [horigin, FilePath.steps_join loc.path_ne_nil (by decide) (by decide), hspelled.parts_location]
  exact h.leads_append hsearched hspelled hstay

end FileSystem

namespace Command

/-- The session that a command leaves, which may have another history by then. -/
def Effect.setting (e : Effect) (history : History) : Setting := ⟨e.environment, e.world, history⟩

variable {programs : Programs} {s : Setting} {args : List String} {loc : Location}

theorem Builtin.cdTarget_of_ne {t : String} (h : t ≠ "~") (args : List String) :
    cdTarget (t :: args) s = .ok (Text.bytes t) := by
  simp [cdTarget, h]

theorem ne_tilde_of_slash (a b : String) : a ++ "/" ++ b ≠ "~" := by
  intro heq
  have hmem : '/' ∈ (a ++ "/" ++ b).toList := by simp
  rw [heq] at hmem
  revert hmem
  decide

/-- A `cd` that comes out well moves both directories to one place. -/
theorem exists_of_cd_finished (hdir : FilePath.isAbsolute s.environment.currentDir = true)
    (h : (dispatch programs s "cd" args).outcome = .ok (.finished 0)) :
    ∃ loc, CdMoves s args loc loc ∧ s.world.files.Stands loc ∧ s.world.files.Searched loc ∧
      dispatch programs s "cd" args = s.moved loc loc := by
  have hrun := dispatch_cd programs s args
  rcases runCd_cases args s with ⟨failure, -, heq⟩ | ⟨canonical, entered, hmoves, heq⟩
  · rw [hrun, heq] at h
    cases h
  · obtain ⟨rfl, hstands, hsearched⟩ := hmoves.eq hdir
    exact ⟨_, hmoves, hstands, hsearched, hrun.trans heq⟩

theorem CdMoves.absolute_of_ne {t : String} {canonical entered : Location}
    (h : CdMoves s [t] canonical entered) (ht : t ≠ "~") :
    s.world.files.absolute s.world.here
      (FilePath.join s.environment.currentDir (Text.bytes t)) = .ok canonical := by
  obtain ⟨target, htarget, habsolute⟩ := h.asked
  rw [Builtin.cdTarget_of_ne ht] at htarget
  cases htarget
  exact habsolute

theorem CdMoves.dot {canonical : Location} (h : CdMoves s args canonical canonical)
    (hdir : FilePath.isAbsolute s.environment.currentDir = true)
    (hstands : s.world.files.Stands canonical) (hsearched : s.world.files.Searched canonical)
    (history : History) : CdMoves ((s.moved canonical canonical).setting history) ["."] canonical canonical := by
  obtain ⟨target, -, habsolute⟩ := h.asked
  have hspelled := FileSystem.isSpelled_of_absolute (FilePath.isAbsolute_join hdir target) habsolute
  have hcheck := (FileSystem.enter_eq_ok_iff.1 h.entered).1
  have htarget : Builtin.cdTarget ["."] ((s.moved canonical canonical).setting history) =
      .ok FilePath.here := Builtin.cdTarget_of_ne (by decide) []
  exact ⟨⟨FilePath.here, htarget, hstands.absolute_dot hsearched hspelled hcheck⟩,
    hstands.enter_path hsearched hspelled hcheck⟩

/-- Two targets one after another lead where they lead as one path. -/
theorem CdMoves.eq_of_append {a b : String} {history : History} {there l l' : Location}
    (hfirst : CdMoves s [a] there there) (hstands : s.world.files.Stands there)
    (hsearched : s.world.files.Searched there)
    (hsecond : CdMoves ((s.moved there there).setting history) [b] l l)
    (hwhole : CdMoves s [a ++ "/" ++ b] l' l')
    (hdir : FilePath.isAbsolute s.environment.currentDir = true) (ha : a ≠ "") (hatilde : a ≠ "~")
    (hb : b ≠ "") (hbtilde : b ≠ "~") (hrelative : FilePath.isAbsolute (Text.bytes b) = false) :
    l = l' := by
  have ha' : Text.bytes a ≠ [] := fun hnil => ha (Text.bytes_eq_nil_iff.1 hnil)
  have hb' : Text.bytes b ≠ [] := fun hnil => hb (Text.bytes_eq_nil_iff.1 hnil)
  have hboth := hwhole.absolute_of_ne (ne_tilde_of_slash a b)
  rw [Text.bytes_append, Text.bytes_append, List.append_assoc] at hboth
  exact FileSystem.eq_of_absolute_append hdir ha' hb' hrelative hstands hsearched
    (hfirst.absolute_of_ne hatilde) (hsecond.absolute_of_ne hbtilde) hboth

/-- Changing the directory composes: if a target, another relative to it and the two as one path can
all be entered, the way in two steps ends where the way in one does. Once in a directory, a dot goes
nowhere. -/
theorem cd_composes (programs : Programs) {s : Setting}
    (hdir : FilePath.isAbsolute s.environment.currentDir = true) (history : History) :
    (∀ a b : String, a ≠ "" → a ≠ "~" → b ≠ "" → b ≠ "~" →
      FilePath.isAbsolute (Text.bytes b) = false →
      let first := dispatch programs s "cd" [a]
      let second := dispatch programs (first.setting history) "cd" [b]
      let whole := dispatch programs s "cd" [a ++ "/" ++ b]
      first.outcome = .ok (.finished 0) → second.outcome = .ok (.finished 0) →
        whole.outcome = .ok (.finished 0) →
        second.environment = whole.environment ∧ second.world = whole.world) ∧
    ∀ args,
      let first := dispatch programs s "cd" args
      first.outcome = .ok (.finished 0) →
        dispatch programs (first.setting history) "cd" ["."] =
          ⟨.ok (.finished 0), [], first.environment, first.world⟩ := by
  constructor
  · intro a b ha hatilde hb hbtilde hrelative
    dsimp only
    intro hfirst hsecond hwhole
    obtain ⟨there, hmoves, hstands, hsearched, heq⟩ := exists_of_cd_finished hdir hfirst
    rw [heq] at hsecond ⊢
    obtain ⟨l, hmoves', -, -, heq'⟩ := exists_of_cd_finished there.isAbsolute_path hsecond
    obtain ⟨l', hmoves'', -, -, heq''⟩ := exists_of_cd_finished hdir hwhole
    have hsame : l = l' :=
      hmoves.eq_of_append hstands hsearched hmoves' hmoves'' hdir ha hatilde hb hbtilde hrelative
    rw [heq', heq'', hsame]
    exact ⟨rfl, rfl⟩
  · intro args
    dsimp only
    intro hfirst
    obtain ⟨there, hmoves, hstands, hsearched, heq⟩ := exists_of_cd_finished hdir hfirst
    rw [heq, dispatch_cd, (hmoves.dot hdir hstands hsearched history).runCd_eq]
    rfl

/-- A link leads down into a directory, and two dots after it lead to the directory above that one. -/
theorem cd_composes_link :
    let files : FileSystem := ⟨[([Text.bytes "top"], .directory),
      ([Text.bytes "sub", Text.bytes "top"], .directory),
      ([Text.bytes "link"], .link (Text.bytes "top/sub"))], []⟩
    let s : Setting := ⟨⟨[], [FilePath.slash], false⟩, ⟨files, [], [], none⟩, .empty⟩
    let first := dispatch .idle s "cd" ["link"]
    let second := dispatch .idle (first.setting .empty) "cd" [".."]
    let whole := dispatch .idle s "cd" ["link/.."]
    first.world.here = [Text.bytes "sub", Text.bytes "top"] ∧
      second.environment = whole.environment ∧ second.world = whole.world ∧
      whole.world.here = [Text.bytes "top"] := by
  intro files s first second whole
  have hok {outcome : Except Failure Outcome} (h : outcome.toOption = some (.finished 0)) :
      outcome = .ok (.finished 0) := by
    cases outcome with
    | error failure => cases h
    | ok result => exact congrArg _ (Option.some.inj h)
  obtain ⟨henvironment, hworld⟩ := (cd_composes .idle (s := s) (by decide) .empty).1 "link" ".."
    (by decide) (by decide) (by decide) (by decide) (by decide) (hok (by decide +kernel))
    (hok (by decide +kernel)) (hok (by decide +kernel))
  exact ⟨by decide +kernel, henvironment, hworld, by decide +kernel⟩

end Command

end GuidedShell
