import Transpile.Main
import Transpile.Proofs.Blocks
import Transpile.Proofs.Closure.Compile
import Transpile.Proofs.Discipline
import Transpile.Proofs.Expressions
import Transpile.Proofs.Grouping.ReadBack
import Transpile.Proofs.Grouping.Term
import Transpile.Proofs.Grouping.Text
import Transpile.Proofs.Kept
import Transpile.Proofs.Layout.Tree
import Transpile.Proofs.Levels
import Transpile.Proofs.Naming.Bound
import Transpile.Proofs.Naming.CamelCase
import Transpile.Proofs.Naming.Declared
import Transpile.Proofs.Printable
import Transpile.Proofs.Progress.Expressions
import Transpile.Proofs.Progress.Names
import Transpile.Proofs.Progress.Statements
import Transpile.Proofs.Progress.Supported
import Transpile.Proofs.Purity
import Transpile.Proofs.Reading.Grammar
import Transpile.Proofs.Reading.Literal
import Transpile.Proofs.Reading.Reader
import Transpile.Proofs.Reading.Splitting
import Transpile.Proofs.Record
import Transpile.Proofs.Rules
import Transpile.Proofs.Run
import Transpile.Proofs.Scope
import Transpile.Proofs.Shapes
import Transpile.Proofs.Siblings
import Transpile.Proofs.Success
import Transpile.Proofs.Temporaries.Capture
import Transpile.Script.Build
import Transpile.Proofs.Naming.Assigned
import Transpile.Proofs.Naming.Protected
import Transpile.Proofs.Operands
import Transpile.Proofs.Grouping.Augmented
import Transpile.Proofs.Running.Comprehension
import Transpile.Proofs.Running.Unpacking
import Transpile.Proofs.Classes.Decorators
import Transpile.Proofs.Classes.Hygiene
import Transpile.Proofs.Running.WhileElse
import Transpile.Proofs.Rendering.Arrays
import Transpile.Proofs.Rendering.Chains
import Transpile.Proofs.Naming.SpecialForms
import Transpile.Proofs.Naming.Keys
import Transpile.Proofs.Margin
