import Transpile.Text.Quoted

/-! Values without structure: what stands in the leaves of source trees and of script trees. -/

namespace Transpile

inductive Atom where
  | none
  | flag (b : Bool)
  /-- A number, carried as the text it is shown by. -/
  | number (shown : String)
  /-- A whole number with too many digits to be shown. -/
  | vast
  | text (s : String)
  | bytes (s : String)
  | ellipsis
  deriving DecidableEq, Repr, Inhabited

namespace Atom

/-- The atom in traces: a text is quoted. -/
def quoted : Atom → String
  | none => "None"
  | flag true => "True"
  | flag false => "False"
  | number n => n
  | vast => ""
  | text s => Text.quoted s
  | bytes s => "b" ++ Text.quoted s
  | ellipsis => "Ellipsis"

/-- The atom in running text: a text stands as it is. -/
def shown : Atom → String
  | text s => s
  | a => a.quoted

/-- Whether the atom counts as present when a rule asks for it. -/
def isTruthy : Atom → Bool
  | none => false
  | flag b => b
  | number n => !(n = "0" || n = "0.0" || n = "-0.0" || n = "0j")
  | text s => !s.isEmpty
  | bytes s => !s.isEmpty
  | vast | ellipsis => true

end Atom

end Transpile
