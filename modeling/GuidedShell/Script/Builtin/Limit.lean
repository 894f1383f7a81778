import GuidedShell.Script.Builtin.Options

/-! Limiting what the process may use. -/
namespace GuidedShell.Script.Step

/-- Whether the limit in force and the one that can be allowed are meant. -/
structure Side where
  soft : Bool
  hard : Bool

def Side.pick (side : Side) (limits : Nat × Nat) : Nat := if side.soft then limits.1 else limits.2

def setLimit (r : Resource) (side : Side) (w : Octets) : Step Unit := do
  let some n := Limits.parse? r w | fail "bad number".toList
  let m ← get
  let (soft, hard) := m.limits.of r
  let newSoft := if side.soft then n else soft
  let newHard := if side.hard then n else hard
  let refuse (why : String) : Step Unit := fail ("error setting limit: ".toList ++ why.toList)
  if newHard < newSoft then refuse "(Invalid argument)"
  if hard < newHard then refuse "(Operation not permitted)"
  set { m with limits := m.limits.set r.letter newSoft newHard }

def limit (ws : List Octets) : Step Unit := do
  let (given, ws) ← optionsOf "HSatfdscmlpnvwr" ws
  let letters := given.map (·.1)
  let side : Side :=
    match (letters.filter fun c => c == 'H' || c == 'S').getLast? with
    | some 'H' => ⟨false, true⟩
    | some _ => ⟨true, false⟩
    | none => ⟨true, true⟩
  let all := letters.contains 'a'
  if ws.length > 1 || (all && !ws.isEmpty) then fail "too many arguments".toList
  let letter := ((letters.filter fun c => ! (['H', 'S', 'a'].contains c)).getLast?).getD 'f'
  let m ← get
  for r in Limits.resources do
    let value := Limits.text r (side.pick (m.limits.of r)) ++ ['\n']
    if all then
      say (r.title.toList ++ List.replicate (20 - r.title.length) ' ' ++ ' ' :: value)
    else if r.letter = letter then
      match ws with
      | [] => say value
      | w :: _ => setLimit r side w
  done 0

end GuidedShell.Script.Step
