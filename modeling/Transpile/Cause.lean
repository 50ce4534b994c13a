/-! Why a computation fails. -/

namespace Transpile

inductive Cause where
  /-- A rule needs more children than the walk has collected. -/
  | missingChild
  /-- A value lacks the attribute that is asked of it. -/
  | missingAttribute
  /-- A value is of the wrong sort for the operation. -/
  | wrongType
  | missingKey
  | emptyStack
  | levelBelowZero
  | specialFormOverwritten
  | severalGenerators
  | steppedSlice
  /-- A setter has more than one parameter; the payload shows the setter. -/
  | setterParameters (shown : String)
  | malformedSource
  /-- A text that is to be read holds half a character. -/
  | halfCharacter
  | nulInSource
  | missingFile
  | notAFile
  /-- A path goes on after something that is not a folder. -/
  | notAFolder
  | nameTooLong
  | nulInPath
  /-- A number is beyond what a machine word or a fraction can hold. -/
  | outOfRange
  | outOfMemory
  | tooManyDigits
  deriving DecidableEq, Repr, Inhabited

/-- The text that goes with a cause, where it has one. -/
def Cause.message : Cause → Option String
  | emptyStack => some "Stack is empty"
  | levelBelowZero => some "invalid stack level"
  | specialFormOverwritten => some "Special form overwriten"
  | severalGenerators => some "Only implemented 1 generator per comprehension"
  | steppedSlice => some ":D"
  | nulInSource => some "source code string cannot contain null bytes"
  | nulInPath => some "embedded null byte"
  | tooManyDigits => some ("Exceeds the limit (4300 digits) for integer string conversion; " ++
      "use sys.set_int_max_str_digits() to increase the limit")
  | setterParameters shown => some ("Setter functions must have one argument: " ++ shown)
  | _ => none

end Transpile
