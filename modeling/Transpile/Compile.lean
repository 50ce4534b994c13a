import Transpile.Script.Render
import Transpile.Source.Parse
import Transpile.Text.Margin
import Transpile.Walk.Visit

/-! From source text to script text: the margin is taken off, the text is read, the tree is walked
and its result is written. -/

namespace Transpile

open Script

structure Settings where
  shape : Source.Shape := .classic
  walk : Walk.Options := {}
  /-- Half of the width of one indentation. -/
  indent : Int := 2

/-- What a compilation leaves: a result or the cause of its failure, and the lines of the trace. -/
structure Outcome (α : Type) where
  result : Except Cause α
  trace : List String := []

/-- A source text as a tree; a text that cannot be stored is refused before it is read. -/
def readSource (shape : Source.Shape) (source : String) : Except Cause Source.Tree :=
  if Text.hasHalf source then .error .halfCharacter
  else if source.contains '\x00' then .error .nulInSource
  else match Source.parse? shape source with
    | some t => .ok t
    | none => .error .malformedSource

/-- Reads a source text and walks its tree. -/
def walkSource (shape : Source.Shape) (source : String) : Walk.Walker Piece :=
  match readSource shape source with
  | .ok t => Walk.visit t
  | .error c => throw c

def compile (s : Settings) (source : String) : Outcome Piece :=
  let (r, state) := Walk.run (walkSource s.shape (Text.normalize source)) s.walk {}
  { result := do
      let p ← r
      checkWidth s.indent
      (p.renderAt s.indent 0).1
    trace := state.trace.reverse }

end Transpile
