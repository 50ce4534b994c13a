import Transpile.Text.Ranges

/-! Blank characters, and text without blanks at its ends. -/

namespace Transpile.Text

def blankRanges : Ranges := [
  (0x9, 0xd), (0x1c, 0x20), (0x85, 0x85), (0xa0, 0xa0), (0x1680, 0x1680), (0x2000, 0x200a),
  (0x2028, 0x2029), (0x202f, 0x202f), (0x205f, 0x205f), (0x3000, 0x3000)]

def isBlank (c : Char) : Bool := blankRanges.has c

def stripStart (cs : List Char) : List Char := cs.dropWhile isBlank

def stripEnd (cs : List Char) : List Char := (stripStart cs.reverse).reverse

def strip (cs : List Char) : List Char := stripEnd (stripStart cs)

end Transpile.Text
