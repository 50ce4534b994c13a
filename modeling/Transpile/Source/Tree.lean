import Transpile.Atom
import Transpile.Source.Kind

/-! Source trees. Every node is a class and its fields, whatever the fields hold, so a tree that no
source text gives is a tree too. -/

namespace Transpile.Source

inductive Tree where
  /-- A field that was not given. -/
  | missing
  | atom (a : Atom)
  | list (ts : List Tree)
  /-- The fields stand in the order of the class. -/
  | node (kind : Kind) (fields : List Tree)

instance : Inhabited Tree := ⟨.missing⟩

namespace Tree

@[match_pattern] abbrev none : Tree := .atom .none
@[match_pattern] abbrev text (s : String) : Tree := .atom (.text s)

/-- A node from its fields by name. Fields that the class does not have are dropped. -/
def ofFields (k : Kind) (given : List (String × Tree)) : Tree :=
  .node k (k.fields.map fun f =>
    (given.lookup f).getD (if k.optionalFields.contains f then .none else .missing))

def kind? : Tree → Option Kind
  | .node k _ => some k
  | _ => Option.none

def isNode : Tree → Bool
  | .node _ _ => true
  | _ => false

def isTruthy : Tree → Bool
  | .missing => false
  | .atom a => a.isTruthy
  | .list ts => !ts.isEmpty
  | .node _ _ => true

end Tree

end Transpile.Source
