import GuidedShell.Script.Run

/-! Processes side by side. One has its turn until it waits for others or ends; then the one that
has been waiting longest goes on, if it can. -/
namespace GuidedShell.Script

/-- Where a process stands. -/
inductive Standing where
  | newborn (r : Runner) (mission : Mission)
  | paused (want : Want) (resume : Shared → Course Ending)

abbrev Fellow := Nat × Standing

def Want.isMet (s : Shared) (process : Nat) : Want → Bool
  | .turn => true
  | .input number known => known < s.depth number || !s.isFed number
  | .room number => s.hasRoom number
  | .child => s.members.any fun e => e.parent == process && e.ending.isSome

def Standing.isReady (s : Shared) (process : Nat) : Standing → Bool
  | .newborn .. => !s.stopped.contains process
  | .paused want _ =>
    !s.stopped.contains process &&
      (want.isMet s process || s.posted.any (·.1 == process))

namespace Schedule

/-- Take out the first process that can have its turn. -/
def next? (s : Shared) : List Fellow → Option (Fellow × List Fellow)
  | [] => none
  | f :: fs =>
    if f.2.isReady s f.1 then some (f, fs)
    else (next? s fs).map fun (g, rest) => (g, f :: rest)

variable (go : Carrier)

def advance (s : Shared) (f : Fellow) : Course Ending :=
  match f.2 with
  | .newborn r mission => (do Step.attend; Step.fulfil go mission : Step Ending) ⟨r, s, []⟩
  | .paused _ resume => resume s

/-- Let processes have their turns until none can go on, or until the fuel is used up. When nobody
can hear them any more, only so many turns are `left` to them. -/
def run : (fuel left : Nat) → List Fellow → Shared → Shared
  | 0, _, _, s => s
  | n + 1, left, fs, s =>
    match if left = 0 then none else next? s fs with
    | none => s
    | some (f, others) =>
      let (after, s) := match advance go s f with
        | .done out m =>
          let e := match out with
            | .ok e => e
            | .error (.ended e) => e
            | .error _ => .exited 2
          ([], m.shared.bury f.1 e)
        | .paused want s resume => ([(f.1, Standing.paused want resume)], s)
      let born := s.newborn.map fun (r, mission) => (r.process, Standing.newborn r mission)
      let left := if s.isHeld 0 true || s.isHeld 1 true then left else left - 1
      run n left (others ++ born ++ after) { s with newborn := [] }

end Schedule

end GuidedShell.Script
