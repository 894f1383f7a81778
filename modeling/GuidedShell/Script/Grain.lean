import GuidedShell.Script.Machine
import GuidedShell.Script.Pattern

/-! What an expansion produces, and the words that it makes. -/
namespace GuidedShell.Script

inductive Grain where
  /-- A character. A firm one stands for itself in patterns. -/
  | char (c : Char) (firm : Bool)
  /-- A quote, which makes that there is a word. -/
  | quote
  /-- The beginning of a stretch in which characters may separate words: those that the script
  names, or only zeros. -/
  | opened (zeros : Bool)
  | closed
  deriving DecidableEq

namespace Grain

def ofText (firm : Bool) (cs : Octets) : List Grain := cs.map fun c => .char c firm

def text (gs : List Grain) : Octets :=
  gs.filterMap fun
    | .char c _ => some c
    | _ => none

/-- A text for the reader of patterns. Firm characters are protected there. A backslash that is not
firm protects by itself, except right before the first quote or firm character. -/
def pattern (gs : List Grain) : Octets :=
  let isLoose : Grain → Bool
    | .char _ firm => !firm
    | _ => false
  let gs := gs.filter fun
    | .char .. | .quote => true
    | _ => false
  text (gs.takeWhile isLoose) ++ go true (gs.dropWhile isLoose)
where
  go (protecting : Bool) : List Grain → Octets
    | [] => []
    | .char c true :: gs => (if protecting then ['\\', c] else [c]) ++ go true gs
    | .char c false :: gs => c :: go (if c == '\\' then !protecting else true) gs
    | _ :: gs => go protecting gs

/-- How far a text has been taken apart into fields. -/
structure Splitter where
  /-- How many more fields may be made, if that is limited. -/
  room : Option Nat
  /-- The grains of the current field, last one first. -/
  held : List Grain
  /-- Only zeros separate here. -/
  zeros : Bool
  /-- Only zeros separated in the stretch before. -/
  zerosBefore : Bool
  /-- The last field was ended by a gap, and a separator may still belong to it. -/
  afterGap : Bool
  /-- A stretch has been met at all. -/
  any : Bool
  inside : Bool
  /-- How many grains of the last field remain if what follows is only separators. -/
  cut : Option Nat
  fields : List (List Grain)

namespace Splitter

def start (limit : Option Nat) : Splitter :=
  ⟨limit, [], false, false, false, false, false, none, []⟩

def finish (s : Splitter) : Splitter :=
  { s with fields := s.held.reverse :: s.fields, held := [] }

/-- A separator where the last field has begun. It ends the field unless more follows. -/
def last (s : Splitter) (g : Grain) (separates gap : Bool) : Splitter :=
  let size := s.held.length
  let s := { s with held := g :: s.held }
  if gap then { s with cut := some (s.cut.getD size) }
  else if separates && s.afterGap then { s with afterGap := false }
  else { s with cut := none, afterGap := false }

def step (separators : Octets) (s : Splitter) (g : Grain) : Splitter :=
  match g with
  | .opened zeros =>
    { s with
      zerosBefore := s.zeros
      zeros
      afterGap := false
      any := true
      inside := true }
  | .closed => { s with inside := false }
  | .quote => { s with held := g :: s.held }
  | .char c _ =>
    if !s.inside then { s with held := g :: s.held }
    else
      let separates := c == zero || (!s.zeros && separators.contains c)
      let gap := separates && (c == zero || Machine.gaps.contains c)
      if s.room = some 0 then s.last g separates gap
      else if s.afterGap && separates && gap then { s with held := [] }
      else if s.afterGap && separates then { s with held := [], afterGap := false }
      else
        let s := if s.afterGap then { s with held := [] } else s
        if !separates then { s with held := g :: s.held, afterGap := false }
        else
          let s := if s.zeros || s.zerosBefore then s else { s with afterGap := gap }
          if s.held.isEmpty && s.afterGap then { s with afterGap := false }
          else match s.room with
            | some 1 => { s with room := some 0, cut := some s.held.length, held := g :: s.held }
            | some (n + 2) => { s.finish with room := some (n + 1) }
            | room => { s.finish with room }

def result (s : Splitter) : List (List Grain) :=
  let held := match s.cut with
    | some n => s.held.drop (s.held.length - n)
    | none => s.held
  let s := { s with held }
  let s := if (s.any && s.zeros) || !held.isEmpty then s.finish else s
  s.fields.reverse

end Splitter

/-- The fields that grains make, at most `limit` of them. -/
def fields (separators : Octets) (limit : Option Nat) (gs : List Grain) : List (List Grain) :=
  (gs.foldl (Splitter.step separators) (Splitter.start limit)).result

end Grain

end GuidedShell.Script
