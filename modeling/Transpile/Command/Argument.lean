import Transpile.Number.Whole

/-! The words of a command line. A word with a dash is an option: a letter, to which more letters or
a value may be joined, or a long name, which may be cut as long as one option is meant. All files
stand together. -/

namespace Transpile.Command

inductive Opt where
  | help | debug | warnings | output | bare | join | indent | camelCase
  deriving DecidableEq, Repr

namespace Opt

def all : List Opt := [.help, .debug, .warnings, .output, .bare, .join, .indent, .camelCase]

def letter? : Opt → Option Char
  | .help => some 'h'
  | .debug => some 'g'
  | .warnings => some 'w'
  | .output => some 'o'
  | .bare => some 'b'
  | .join => some 'j'
  | .indent | .camelCase => none

def longName : Opt → String
  | .help => "help"
  | .debug => "debug"
  | .warnings => "warnings"
  | .output => "output"
  | .bare => "bare"
  | .join => "join"
  | .indent => "indent"
  | .camelCase => "auto-camelcase"

def takesValue : Opt → Bool
  | .output | .indent => true
  | _ => false

def ofLetter? (c : Char) : Option Opt := all.find? fun o => o.letter? = some c

end Opt

/-- What is joined to the name of an option in its own word; an equals sign may stand between. -/
def joined? : List Char → Option (List Char)
  | [] => none
  | '=' :: cs => some cs
  | cs => some cs

inductive Word where
  | plain (s : String)
  /-- The first word of two dashes; all words after it are plain. -/
  | separator
  | short (o : Opt) (joined : Option (List Char))
  | long (o : Opt) (joined : Option (List Char))
  | unknown
  | ambiguous
  deriving Inhabited

/-- A dash and a decimal number. -/
def isNegative : List Char → Bool
  | '-' :: cs =>
    let rest := cs.dropWhile Text.isDecimal
    match rest with
    | [] => !cs.isEmpty
    | '.' :: ds => !ds.isEmpty && ds.all Text.isDecimal
    | _ => false
  | _ => false

/-- A word that names no option. It is plain if it is a number or holds a blank. -/
def Word.unnamed (s : String) : Word :=
  if isNegative s.toList || s.toList.contains ' ' then .plain s else .unknown

def Word.ofLong (s : String) (cs : List Char) : Word :=
  let key := cs.takeWhile (· ≠ '=')
  let value := joined? (cs.drop key.length)
  match Opt.all.find? fun o => o.longName.toList = key with
  | some o => .long o value
  | none =>
    match Opt.all.filter fun o => key.isPrefixOf o.longName.toList with
    | [] => .unnamed s
    | [o] => .long o value
    | _ => .ambiguous

def Word.of (s : String) : Word :=
  match s.toList with
  | '-' :: '-' :: cs => .ofLong s cs
  | ['-'] => .plain s
  | '-' :: c :: cs =>
    match Opt.ofLetter? c with
    | some o => .short o (joined? cs)
    | none => .unnamed s
  | _ => .plain s

def Word.all : List String → List Word
  | [] => []
  | s :: ss => if s = "--" then .separator :: ss.map .plain else .of s :: Word.all ss

end Transpile.Command
