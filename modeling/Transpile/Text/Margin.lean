import Transpile.Text.Blank
import Transpile.Text.Camel

/-! Source text without its outer margin: lines of spaces and tabs are emptied, the longest run of
spaces and tabs that opens every other line is cut, and blanks at both ends of the text go. -/

namespace Transpile.Text

def isIndent (c : Char) : Bool := c = ' ' || c = '\t'

def lines (cs : List Char) : List (List Char) := splitAt '\n' cs

def unlines (ls : List (List Char)) : List Char := ['\n'].intercalate ls

def clearLine (l : List Char) : List Char := if l.all isIndent then [] else l

def commonPart : List Char → List Char → List Char
  | a :: as, b :: bs => if a = b then a :: commonPart as bs else []
  | _, _ => []

/-- The indentation shared by the lines that hold something. -/
def margin (ls : List (List Char)) : List Char :=
  match (ls.filter (!·.all isIndent)).map (·.takeWhile isIndent) with
  | [] => []
  | i :: is => is.foldl commonPart i

def dedentLines (ls : List (List Char)) : List (List Char) :=
  let m := (margin ls).length
  (ls.map clearLine).map (·.drop m)

def dedent (cs : List Char) : List Char := unlines (dedentLines (lines cs))

def normalize (s : String) : String := String.ofList (strip (dedent s.toList))

end Transpile.Text
