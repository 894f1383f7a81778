import GuidedShell.FilePath.Basic

/-! What the first bytes of a program file say about how to start it. -/
namespace GuidedShell.Exec

inductive Header where
  /-- A program for the machine itself, and the path of the program that is to load it, if it names
  one. -/
  | native (loader? : Option FilePath)
  /-- A program for the machine itself that names its loader behind its end. -/
  | cutOff
  /-- A script: the program that reads it, and one word to pass on before the script's name. -/
  | script (interpreter : FilePath) (word : Option Bytes)
  | unknown
  deriving DecidableEq

namespace Header

/-- How many bytes of a file are looked at. What is not there counts as zero. -/
def size : Nat := 256

/-- How a file begins that may be a program for the machine itself. -/
def nativeMark : Bytes := [0x7F, 0x45, 0x4C, 0x46]

/-- A number of some bytes, the lowest one first. -/
def numberAt (content : Bytes) (place count : Nat) : Nat :=
  ((content.drop place).take count).foldr (fun b n => b.toNat + 256 * n) 0

/-- What has the table of its segments where it says, and is for a machine of this kind. -/
def hasSegments (content : Bytes) : Bool :=
  let segments := numberAt content 56 2
  nativeMark.isPrefixOf content && numberAt content 18 2 == 62 && numberAt content 54 2 == 56 &&
    0 < segments && segments * 56 ≤ 4096 &&
    numberAt content 32 8 + segments * 56 ≤ content.length

def isNative (content : Bytes) : Bool :=
  (numberAt content 16 2 == 2 || numberAt content 16 2 == 3) && hasSegments content

/-- How a segment is marked that holds the path of the loader, with a zero at its end. -/
def loaderMark : Nat := 3

/-- Read the table of the segments. The first one with a loader counts. -/
def ofSegments (content : Bytes) : Header :=
  let entry i := numberAt content 32 8 + i * 56
  match (List.range (numberAt content 56 2)).find? fun i =>
      numberAt content (entry i) 4 == loaderMark with
  | none => .native none
  | some i =>
    let size := numberAt content (entry i + 32) 8
    let path := (content.drop (numberAt content (entry i + 8) 8)).take size
    if size < 2 || 4096 < size then .unknown
    else if path.length < size then .cutOff
    else if path.getLast? != some 0 then .unknown
    else .native (some (path.takeWhile (· != 0)))

/-- The front of a program for the machine itself, with a table of one segment. -/
def nativeFront : Bytes :=
  nativeMark ++ [2, 1, 1] ++ .replicate 9 0 ++ [3, 0, 62, 0, 1, 0, 0, 0] ++ .replicate 8 0 ++
    [64] ++ .replicate 19 0 ++ [64, 0, 56, 0, 1, 0] ++ .replicate 62 0

def isGap (b : UInt8) : Bool := b == 0x20 || b == 0x09

def isStop (b : UInt8) : Bool := isGap b || b == 0

def dropGapsAtEnd (bs : Bytes) : Bytes := (bs.reverse.dropWhile isGap).reverse

/-- The line after the mark of a script. A line that does not end in front of the first zero is cut
off, and counts only if the name of the interpreter surely ends in it. -/
def line? (rest : Bytes) : Option Bytes :=
  let seen := rest.take (size - 2)
  let seen := seen ++ List.replicate (size - 2 - seen.length) 0
  let front := seen.takeWhile fun b => b != 0x0A && b != 0
  if seen[front.length]? = some 0x0A then some front
  else if (seen.dropWhile isGap).any isStop then some seen.dropLast
  else none

/-- Read what stands between the mark of a script and the end of its line. -/
def ofLine (line : Bytes) : Header :=
  match (dropGapsAtEnd line).dropWhile isGap with
  | [] => .unknown
  | text =>
    let interpreter := text.takeWhile (!isStop ·)
    match text.dropWhile (!isStop ·) with
    | [] | 0 :: _ => .script interpreter none
    | rest => .script interpreter (some ((rest.dropWhile isGap).takeWhile (· != 0)))

def ofContent (content : Bytes) : Header :=
  match content with
  | 0x23 :: 0x21 :: rest => ((line? rest).map ofLine).getD .unknown
  | _ => if isNative content then ofSegments content else .unknown

end Header

end GuidedShell.Exec
