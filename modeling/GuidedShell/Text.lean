import GuidedShell.Chars.Blank
import GuidedShell.Chars.Grapheme
import GuidedShell.Chars.Lines
import GuidedShell.Chars.Lower
import GuidedShell.Chars.Numeral
import GuidedShell.Utf8

/-! Operations on whole texts. -/
namespace GuidedShell.Text

def trim (s : String) : String := .ofList (Chars.trim s.toList)

def words (s : String) : List String := (Chars.words s.toList).map .ofList

def lines (s : String) : List String := (Chars.lines s.toList).map .ofList

def lower (s : String) : String := .ofList (Chars.lower s.toList)

def hasBlank (s : String) : Bool := s.toList.any Chars.isBlank

def startsWith (s front : String) : Bool := front.toList.isPrefixOf s.toList

def endsWith (s back : String) : Bool := back.toList.isSuffixOf s.toList

def decimal (n : Nat) : String := .ofList (Chars.decimal n)

/-- The texts in order with `glue` between neighbours. -/
def join (glue : String) (parts : List String) : String :=
  .ofList (joinPieces glue.toList (parts.map String.toList))

def bytes (s : String) : Bytes := Utf8.encode s.toList

/-- The system takes a text by its bytes. -/
instance : Coe String Bytes := ⟨bytes⟩

def ofBytesLossy (bs : Bytes) : String := .ofList (Utf8.decodeLossy bs)

def ofBytes? (bs : Bytes) : Option String := (Utf8.decode? bs).map .ofList

end GuidedShell.Text
