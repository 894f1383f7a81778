import GuidedShell.Script.Grain

/-! The paths that fit a pattern. -/
namespace GuidedShell.Script

namespace Pattern

/-- A bracket begins here that has an end before the next slash. -/
def closes : (fuel : Nat) → Octets → Bool
  | 0, _ => false
  | n + 1, cs =>
    let cs := if cs.head? == some '\\' then cs.drop 1 else cs
    match cs with
    | [] => false
    | c :: cs => c != '/' && (cs.head? == some ']' || closes n cs)

/-- The parts of a path pattern: what stands before the first part that is open, that part, and what
follows the slash after it, if there is one. No part is open if there is no second. -/
def cutPath : (fuel : Nat) → (before part : Octets) → (isOpen : Bool) → Octets →
    Octets × Option (Octets × Option Octets)
  | 0, before, part, isOpen, _ | _ + 1, before, part, isOpen, [] =>
    if isOpen then (before.reverse, some (part.reverse, none))
    else ((part ++ before).reverse, none)
  | n + 1, before, part, isOpen, c :: cs =>
    let slash (held cs : Octets) : Octets × Option (Octets × Option Octets) :=
      if isOpen then (before.reverse, some (part.reverse, some cs))
      else cutPath n (held ++ part ++ before) [] false cs
    if c == '/' then slash ['/'] cs
    else if c == '\\' then
      match cs with
      | '/' :: cs => slash ['/', '\\'] cs
      | d :: cs => cutPath n before (d :: c :: part) isOpen cs
      | [] => cutPath n before (c :: part) isOpen []
    else
      let isOpen := isOpen || c == '*' || c == '?' ||
        (c == '[' && closes n (if cs.head? == some '!' then cs.drop 1 else cs))
      cutPath n before (c :: part) isOpen cs

/-- A pattern without the backslashes that protect something. -/
def literal : Octets → Octets
  | '\\' :: c :: cs => c :: literal cs
  | c :: cs => c :: literal cs
  | [] => []

end Pattern

namespace Machine

/-- Something stands at a path, if only a link that leads nowhere. -/
def stands (m : Machine) (p : Octets) : Bool :=
  (m.files.findEntry m.here (path p)).toOption.any fun loc => (m.files.node? loc).isSome

/-- The paths behind `base` that fit a pattern. -/
def paths (m : Machine) : (fuel : Nat) → (base pattern : Octets) → List Octets
  | 0, _, _ => []
  | n + 1, base, pattern =>
    match Pattern.cutPath (pattern.length + 1) [] [] false pattern with
    | (_, none) =>
      let p := base ++ Pattern.literal pattern
      if !base.isEmpty && m.stands p then [p] else []
    | (before, some (part, after)) =>
      let dir := base ++ Pattern.literal before
      match m.files.list m.here (path (if dir.isEmpty then ['.'] else dir)) with
      | .error _ => []
      | .ok names =>
        let names := FilePath.here :: FilePath.parent :: names
        let hidden := (Pattern.literal part).head? == some '.'
        let fitting := (names.map Octets.ofBytes).filter fun name =>
          (hidden || name.head? != some '.') && Pattern.fits part name
        fitting.flatMap fun name =>
          match after with
          | none => [dir ++ name]
          | some rest => m.paths n (dir ++ name ++ ['/']) rest

/-- The words that a field stands for: the paths that fit it, or itself. -/
def unfold (m : Machine) (field : List Grain) : List Octets :=
  let plain := Grain.text field
  if m.isOn .noglob || !plain.any (fun c => c == '*' || c == '?' || c == '[') then [plain]
  else
    let pattern := Grain.pattern field
    match m.paths (pattern.length + 1) [] pattern with
    | [] => [plain]
    | found => Octets.sort found

end Machine

end GuidedShell.Script
