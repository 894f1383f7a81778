import GuidedShell.Chars.GraphemeTable

/-! Extended grapheme clusters: what a reader takes for one character. -/
namespace GuidedShell.Chars

/-- What a character is for the rules on cluster boundaries. -/
inductive Role where
  | carriageReturn | lineFeed | control | extend | joiner | spacingMark | prepend
  | regional | leadingJamo | vowelJamo | trailingJamo | openSyllable | closedSyllable | other
  deriving DecidableEq

def leadingJamoRanges : List (Nat × Nat) := [(0x1100, 0x115F), (0xA960, 0xA97C)]

def vowelJamoRanges : List (Nat × Nat) :=
  [(0x1160, 0x11A7), (0xD7B0, 0xD7C6), (0x16D63, 0x16D63), (0x16D67, 0x16D6A)]

def trailingJamoRanges : List (Nat × Nat) := [(0x11A8, 0x11FF), (0xD7CB, 0xD7FB)]

def roleOf (c : Char) : Role :=
  let n := c.toNat
  if n = 0x0D then .carriageReturn
  else if n = 0x0A then .lineFeed
  else if n = 0x200D then .joiner
  else if inRanges controlRanges n then .control
  else if n < 0x300 then .other
  else if inRanges extendRanges n then .extend
  else if inRanges spacingMarkRanges n then .spacingMark
  else if inRanges prependRanges n then .prepend
  else if inRanges [(0x1F1E6, 0x1F1FF)] n then .regional
  else if inRanges leadingJamoRanges n then .leadingJamo
  else if inRanges vowelJamoRanges n then .vowelJamo
  else if inRanges trailingJamoRanges n then .trailingJamo
  else if inRanges [(0xAC00, 0xD7A3)] n then
    if (n - 0xAC00) % 28 = 0 then .openSyllable else .closedSyllable
  else .other

/-- How far a sequence has come whose two ends may not be parted. -/
inductive Stage where
  | none | begun | linked
  deriving DecidableEq

/-- What the characters of a cluster so far say about the next one. -/
structure Join where
  last : Role
  /-- The number of regional indicators at the end is odd. -/
  oddRegional : Bool
  /-- A pictograph and its marks, then a joiner. -/
  emoji : Stage
  /-- A consonant and its marks, a linker among them. -/
  conjunct : Stage

/-- The code points that may stand inside a conjunct. -/
def conjunctExtends (c : Char) : Bool :=
  c.toNat = 0x200D || (inRanges extendRanges c.toNat && c.toNat != 0x200C)

def Join.after (j : Join) (c : Char) : Join where
  last := roleOf c
  oddRegional := roleOf c = .regional && !(j.last = .regional && j.oddRegional)
  emoji :=
    if inRanges pictographRanges c.toNat then .begun
    else if j.emoji = .begun && roleOf c = .extend then .begun
    else if j.emoji = .begun && roleOf c = .joiner then .linked
    else .none
  conjunct :=
    if inRanges conjunctConsonantRanges c.toNat then .begun
    else if j.conjunct != .none && inRanges conjunctLinkerRanges c.toNat then .linked
    else if conjunctExtends c then j.conjunct
    else .none

/-- Before the first character of a text. -/
def Join.start : Join := ⟨.control, false, .none, .none⟩

/-- The next character belongs to the same cluster. -/
def Join.joins (j : Join) (c : Char) : Bool :=
  match j.last, roleOf c with
  | .carriageReturn, .lineFeed => true
  | .carriageReturn, _ | .lineFeed, _ | .control, _ => false
  | _, .carriageReturn | _, .lineFeed | _, .control => false
  | .leadingJamo, .leadingJamo | .leadingJamo, .vowelJamo | .leadingJamo, .openSyllable
  | .leadingJamo, .closedSyllable => true
  | .openSyllable, .vowelJamo | .vowelJamo, .vowelJamo => true
  | .openSyllable, .trailingJamo | .vowelJamo, .trailingJamo | .closedSyllable, .trailingJamo
  | .trailingJamo, .trailingJamo => true
  | _, .extend | _, .joiner | _, .spacingMark => true
  | .prepend, _ => true
  | .regional, .regional => j.oddRegional
  | _, _ =>
    (j.emoji = .linked && inRanges pictographRanges c.toNat) ||
      (j.conjunct = .linked && inRanges conjunctConsonantRanges c.toNat)

/-- Clusters of a text, the first of them begun by `held`, given last character first. -/
def clustersFrom (j : Join) (held : List Char) : List Char → List (List Char)
  | [] => if held.isEmpty then [] else [held.reverse]
  | c :: cs =>
    if held.isEmpty || j.joins c then clustersFrom (j.after c) (c :: held) cs
    else held.reverse :: clustersFrom (j.after c) [c] cs

def clusters (cs : List Char) : List (List Char) := clustersFrom .start [] cs

/-- A text without its last `n` bytes, both texts given last character first. There is none where a
character would be cut in two. -/
def dropBytes? (n : Nat) : List Char → Option (List Char)
  | [] => if n = 0 then some [] else none
  | c :: cs =>
    if n = 0 then some (c :: cs)
    else if c.utf8Size ≤ n then dropBytes? (n - c.utf8Size) cs
    else none

/-- What is left of a text, last character first, and how many bytes the next backspaces take
away. -/
structure Erasure where
  kept : List Char
  sizes : List Nat

/-- The size of a cluster is remembered as a single byte. -/
def Erasure.add (e : Erasure) (cluster : List Char) : Erasure where
  kept := cluster.reverse ++ e.kept
  sizes := cluster.foldl (fun n c => n + c.utf8Size) 0 % 256 :: e.sizes

def Erasure.erase? (e : Erasure) : Option Erasure := do
  return { kept := ← dropBytes? (e.sizes.headD 0) e.kept, sizes := e.sizes.drop 1 }

/-- A backspace takes away the cluster left before it, if there is one. -/
def Erasure.step? (e : Erasure) (cluster : List Char) : Option Erasure :=
  if cluster = ['\u0008'] then e.erase? else some (e.add cluster)

/-- What the backspaces leave of a text. -/
def eraseBackspaces? (cs : List Char) : Option (List Char) := do
  let e ← (clusters cs).foldlM Erasure.step? ⟨[], []⟩
  return e.kept.reverse

end GuidedShell.Chars
