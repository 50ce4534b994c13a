import Transpile.Number.Literal
import Transpile.Source.Token
import Transpile.Text.Escape
import Transpile.Text.Ident
import Transpile.Text.Newline
import Transpile.Text.OneForm

/-! From source text to tokens. Indentation is measured twice, with tabs to the next eighth column
and with tabs as one column, and the two measures must agree on every change. Inside brackets line
ends and indentation do not count. -/

namespace Transpile.Source

open Text

/-! Numbers -/

/-- The rest after digits that single underscores may separate; `none` if an underscore does not
stand between digits. -/
def digitRun (isDigit : Char → Bool) : List Char → Option (List Char)
  | '_' :: c :: cs => if isDigit c then digitRun isDigit cs else none
  | ['_'] => none
  | c :: cs => if isDigit c then digitRun isDigit cs else some (c :: cs)
  | [] => some []

def isNameChar (c : Char) : Bool := isAsciiLetter c || c.isDigit || 0x80 ≤ c.toNat

/-- Words that may follow a number without a blank. -/
def numberFollowers : List String := ["and", "else", "for", "if", "in", "is", "not", "or"]

/-- A number ends where no name could go on, or where one of the allowed words begins. -/
def endsNumber (cs : List Char) : Bool :=
  numberFollowers.any (fun w => w.toList.isPrefixOf cs) || !cs.head?.any isNameChar

def ended (cs : List Char) : Option (List Char) := if endsNumber cs then some cs else none

/-- The rest after digits of another base; an underscore may come before them. -/
def basedDigits (isDigit : Char → Bool) (cs : List Char) : Option (List Char) :=
  match (if cs.head? = some '_' then cs.drop 1 else cs) with
  | c :: cs => if isDigit c then digitRun isDigit cs else none
  | [] => none

def isHex (c : Char) : Bool := (hexValue? c).isSome

def isBinary (c : Char) : Bool := c = '0' || c = '1'

/-- A digit of a higher base does not end a number. -/
def noDigit (cs : List Char) : Option (List Char) :=
  if cs.head?.any Char.isDigit then none else ended cs

def imaginary (cs : List Char) : Option (List Char) :=
  match cs with
  | 'j' :: r | 'J' :: r => ended r
  | _ => ended cs

def exponent (cs : List Char) : Option (List Char) :=
  match cs with
  | e :: r =>
    if Number.isExponentMark e then
      match r with
      | s :: d :: r' =>
        if s = '+' || s = '-' then
          if d.isDigit then (digitRun Char.isDigit r').bind imaginary else none
        else if s.isDigit then (digitRun Char.isDigit (d :: r')).bind imaginary
        else ended cs
      | [d] => if d.isDigit then some [] else if d = '+' || d = '-' then none else ended cs
      | [] => ended cs
    else imaginary cs
  | [] => some []

def fraction (cs : List Char) : Option (List Char) :=
  match cs with
  | '.' :: d :: r =>
    if d.isDigit then (digitRun Char.isDigit r).bind exponent else exponent (d :: r)
  | ['.'] => some []
  | _ => exponent cs

/-- Only zeros may follow a zero in a whole number. -/
def decimal (cs : List Char) : Option (List Char) := do
  let r ← digitRun Char.isDigit cs
  let whole := !r.head?.any fun c => c = '.' || Number.isExponentMark c || c = 'j' || c = 'J'
  let digits := cs.take (cs.length - r.length)
  if whole && cs.head? = some '0' && digits.any (fun c => c ≠ '0' && c ≠ '_') then
    none
  else fraction r

/-- The rest after a number that starts with a digit, or with a point and a digit. -/
def afterNumber (cs : List Char) : Option (List Char) :=
  match cs with
  | '0' :: 'x' :: r | '0' :: 'X' :: r => (basedDigits isHex r).bind ended
  | '0' :: 'o' :: r | '0' :: 'O' :: r => (basedDigits isOctal r).bind noDigit
  | '0' :: 'b' :: r | '0' :: 'B' :: r => (basedDigits isBinary r).bind noDigit
  | '.' :: _ => fraction cs
  | _ => decimal cs

/-! Strings -/

/-- How many characters stand before the closing quotes; a backslash hides the character after
it, and a line end closes nothing. -/
def stringLength (q : Char) (triple : Bool) : List Char → Option Nat
  | '\\' :: _ :: cs => (stringLength q triple cs).map (· + 2)
  | c :: cs =>
    if triple then
      if c = q && cs.take 2 = [q, q] then some 0 else (stringLength q triple cs).map (· + 1)
    else if c = q then some 0
    else if c = '\n' then none
    else (stringLength q triple cs).map (· + 1)
  | [] => none

/-- The token for the text between quotes. -/
def stringTok (raw bytes : Bool) (body : List Char) : Option Tok := do
  if bytes && body.any fun c => 0x80 ≤ c.toNat then none
  let s := String.ofList (← if raw then some body else unescape bytes body)
  return if bytes then .bytes s else .string s

/-- Letters before a quote: whether they ask for raw text and for bytes. -/
def stringMark (cs : List Char) : Option (Bool × Bool) :=
  match cs.map Char.toLower with
  | [] | ['u'] => some (false, false)
  | ['r'] => some (true, false)
  | ['b'] => some (false, true)
  | ['b', 'r'] | ['r', 'b'] => some (true, true)
  | _ => none

/-- A string from its opening quote on, and its length with the quotes. -/
def scanString (raw bytes : Bool) (cs : List Char) : Option (Tok × Nat) :=
  match cs with
  | [] => none
  | q :: r =>
    let triple := r.take 2 = [q, q]
    let width := if triple then 3 else 1
    let body := cs.drop width
    do
      let n ← stringLength q triple body
      return (← stringTok raw bytes (body.take n), n + 2 * width)

def isQuote (c : Char) : Bool := c = '"' || c = '\''

/-! Words -/

def isWord : List Char → Bool
  | [] => false
  | c :: cs => isIdentStart c && cs.all isIdentPart

/-- Names that differ only in how they are written are one name. -/
def wordTok (cs : List Char) : Tok :=
  if keywords.contains (String.ofList cs) then .keyword (String.ofList cs)
  else .name (String.ofList (oneForm cs))

/-- A word, or the string that it marks. -/
def scanWord (cs : List Char) : Option (Tok × Nat) :=
  let w := cs.takeWhile isNameChar
  let rest := cs.drop w.length
  match (if rest.head?.any isQuote then stringMark w else none) with
  | some (raw, bytes) => do
    let (t, n) ← scanString raw bytes rest
    return (t, w.length + n)
  | none => if isWord w then some (wordTok w, w.length) else none

/-- One token and its length. -/
def scanToken (cs : List Char) : Option (Tok × Nat) :=
  match cs with
  | [] => none
  | c :: r =>
    if c.isDigit || (c = '.' && r.head?.any Char.isDigit) then do
      let rest ← afterNumber cs
      let n := cs.length - rest.length
      let literal := cs.take n
      if Number.isReadable literal then some (.number (Number.shown literal), n) else none
    else if isQuote c then scanString false false cs
    else if isNameChar c then scanWord cs
    else do
      let s ← operators.find? fun s => s.toList.isPrefixOf cs
      return (.op s, s.length)

/-! Lines -/

/-- The indentation of a line, in both measures, and where a continued line began. -/
structure Indent where
  col : Nat := 0
  alt : Nat := 0
  joined : Nat := 0
  /-- How many characters it takes. -/
  size : Nat := 0

def scanIndent (i : Indent) : List Char → Option Indent
  | ' ' :: cs => scanIndent { i with col := i.col + 1, alt := i.alt + 1, size := i.size + 1 } cs
  | '\t' :: cs =>
    scanIndent { i with col := (i.col / 8 + 1) * 8, alt := i.alt + 1, size := i.size + 1 } cs
  | '\x0c' :: cs => scanIndent { i with col := 0, alt := 0, size := i.size + 1 } cs
  | '\\' :: '\n' :: cs =>
    if cs.isEmpty then none
    else
      let joined := if i.joined = 0 then i.col else i.joined
      scanIndent { i with joined, size := i.size + 2 } cs
  | '\\' :: _ => none
  | _ => some i

structure ScanState where
  pos : Pos := {}
  /-- The open brackets, the last one first. -/
  brackets : List Char := []
  /-- The columns of the open blocks in both measures, the last one first. -/
  indents : List (Nat × Nat) := [(0, 0)]
  lineStart : Bool := true
  /-- The line holds nothing but blanks or a comment. -/
  blank : Bool := false

def maxIndents : Nat := 100

def maxBrackets : Nat := 200

/-- The tokens that the indentation of a line opens or closes, and the open blocks after it. -/
def changeIndent (col alt : Nat) : List (Nat × Nat) → Option (List Tok × List (Nat × Nat))
  | [] => none
  | (c, a) :: rest =>
    if col = c then if alt = a then some ([], (c, a) :: rest) else none
    else if c < col then
      if a < alt && rest.length + 2 ≤ maxIndents then some ([.indent], (col, alt) :: (c, a) :: rest)
      else none
    else (changeClosed col alt rest).map fun r => (.dedent :: r.1, r.2)
where
  /-- After a block was closed the column must be that of an open block. -/
  changeClosed (col alt : Nat) : List (Nat × Nat) → Option (List Tok × List (Nat × Nat))
    | [] => none
    | (c, a) :: rest =>
      if col = c then if alt = a then some ([], (c, a) :: rest) else none
      else if c < col then none
      else (changeClosed col alt rest).map fun r => (.dedent :: r.1, r.2)

def closes : Char → Option Char
  | ')' => some '('
  | ']' => some '['
  | '\x7d' => some '\x7b'
  | _ => none

/-- The open brackets after an operator. -/
def bracketsAfter (s : String) (b : List Char) : Option (List Char) :=
  match s.toList with
  | [c] =>
    if c = '(' || c = '[' || c = '\x7b' then
      if b.length < maxBrackets then some (c :: b) else none
    else match closes c with
      | some o => if b.head? = some o then some b.tail else none
      | none => some b
  | _ => some b

def ScanState.skip (st : ScanState) (cs : List Char) (n : Nat) : ScanState :=
  { st with pos := (points (cs.take n)).foldl Pos.advance st.pos }

/-- The tokens that close the blocks still open at the end. -/
def closing (st : ScanState) : Option (List Token) :=
  if st.brackets.isEmpty then
    some (List.replicate (st.indents.length - 1) ⟨.dedent, st.pos, st.pos⟩)
  else none

def scanFrom (st : ScanState) (cs : List Char) : Option (List Token) :=
  match cs with
  | [] => closing st
  | c :: r =>
    if st.lineStart then do
      let i ← scanIndent {} (c :: r)
      let rest := (c :: r).drop i.size
      let st' := { st.skip (c :: r) i.size with lineStart := false }
      if rest.head?.any (fun c => c = '#' || c = '\n') then
        scanFrom { st' with blank := true } rest
      else if st.brackets.isEmpty then
        let col := if i.joined = 0 then i.col else i.joined
        let alt := if i.joined = 0 then i.alt else i.joined
        let (toks, indents) ← changeIndent col alt st.indents
        return toks.map (⟨·, st'.pos, st'.pos⟩) ++ (← scanFrom { st' with indents } rest)
      else scanFrom st' rest
    else if c = ' ' || c = '\t' || c = '\x0c' then scanFrom (st.skip [c] 1) r
    else if c = '#' then
      let n := (r.takeWhile (· ≠ '\n')).length
      scanFrom (st.skip (c :: r) (n + 1)) (r.drop n)
    else if c = '\n' then
      let st' := { st.skip [c] 1 with lineStart := true, blank := false }
      if st.blank || !st.brackets.isEmpty then scanFrom st' r
      else do return ⟨.newline, st.pos, st'.pos⟩ :: (← scanFrom st' r)
    else if c = '\\' then
      if r.head? = some '\n' && !r.tail.isEmpty then scanFrom (st.skip (c :: r) 2) r.tail else none
    else do
      let (t, n) ← scanToken (c :: r)
      let brackets ← match t with
        | .op s => bracketsAfter s st.brackets
        | _ => some st.brackets
      let st' := { st.skip (c :: r) n with brackets }
      return ⟨t, st.pos, st'.pos⟩ :: (← scanFrom st' (r.drop (n - 1)))
termination_by (cs.length, st.lineStart.toNat)
decreasing_by
  all_goals
    simp_all [Prod.lex_def, ScanState.skip]
    try omega

/-- A text whose last line is not ended by a single character gets one more line end. -/
def endLine (cs : List Char) : List Char :=
  match cs.reverse with
  | '\n' :: '\r' :: _ => unifyNewlines cs ++ ['\n']
  | '\n' :: _ | '\r' :: _ => unifyNewlines cs
  | _ => unifyNewlines cs ++ ['\n']

def tokens? (s : String) : Option (List Token) := scanFrom {} (endLine s.toList)

end Transpile.Source
