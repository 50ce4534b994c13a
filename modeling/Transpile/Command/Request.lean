import Transpile.Command.Argument

/-! What a command line asks for. -/

namespace Transpile.Command

structure Request where
  debug : Bool := false
  bare : Bool := false
  join : Bool := false
  camelCase : Bool := false
  output : Option String := none
  /-- Nothing if the option was given without a number. -/
  indent : Option Int := some 4
  files : List String := []
  deriving Repr

/-- Why a command line asks for nothing to be compiled. -/
inductive Stop where
  | help
  | refused
  deriving DecidableEq, Repr

/-- Whether the files have been named yet. -/
inductive Naming where
  | before | within | past
  deriving DecidableEq

structure Progress where
  request : Request := {}
  naming : Naming := .before
  /-- A word had no place; this is told at the end. -/
  leftover : Bool := false

namespace Progress

def flag (p : Progress) : Opt → Except Stop Progress
  | .help => throw .help
  | .debug => return { p with request.debug := true }
  | .bare => return { p with request.bare := true }
  | .join => return { p with request.join := true }
  | .camelCase => return { p with request.camelCase := true }
  | _ => return p

def value (p : Progress) (o : Opt) (s : String) : Except Stop Progress :=
  match o with
  | .output => return { p with request.output := some s }
  | .indent =>
    match Number.whole? s with
    | some n => return { p with request.indent := some n }
    | none => throw .refused
  | _ => return p

/-- A value that is joined to its option. Two dashes are no value, and take away the one that the
option had. -/
def joinedValue (p : Progress) (o : Opt) (cs : List Char) : Except Stop Progress :=
  if cs = ['-', '-'] then
    match o with
    | .output => return { p with request.output := none }
    | .indent => return { p with request.indent := none }
    | _ => return p
  else p.value o (String.ofList cs)

def file (p : Progress) (s : String) : Progress :=
  if p.naming = .past then { p with leftover := true }
  else { p with request.files := p.request.files ++ [s], naming := .within }

def separator (p : Progress) : Progress :=
  if p.naming = .past then { p with leftover := true } else p

/-- An option ends the files. -/
def closeFiles (p : Progress) : Progress :=
  if p.naming = .within then { p with naming := .past } else p

end Progress

/-- What a word of letters ends in. -/
inductive Tail where
  | value (o : Opt) (cs : List Char)
  /-- The value is the next word. -/
  | wanting (o : Opt)
  | flag (o : Opt)

def Tail.ofLast (o : Opt) : Tail := if o.takesValue then .wanting o else .flag o

/-- The flags from `o` on in a word of letters, and what it ends in. A letter that takes a value
takes all that is joined to it, and every other letter is followed by one. -/
def letters (o : Opt) : List Char → Except Stop (List Opt × Tail)
  | [] => if o.takesValue then return ([], .value o []) else throw .refused
  | c :: cs =>
    if o.takesValue then return ([], .value o (c :: cs))
    else match Opt.ofLetter? c with
      | none => throw .refused
      | some next => do
        let (flags, tail) ← if cs.isEmpty then pure ([], .ofLast next) else letters next cs
        return (o :: flags, tail)

def readWords (p : Progress) : List Word → Except Stop Progress
  | [] => return p
  | .plain s :: ws => readWords (p.file s) ws
  | .separator :: ws => readWords p.separator ws
  | .unknown :: ws => readWords { p.closeFiles with leftover := true } ws
  | .ambiguous :: _ => throw .refused
  | .long o j :: ws =>
    let p := p.closeFiles
    match o.takesValue, j, ws with
    | true, some cs, ws => do readWords (← p.joinedValue o cs) ws
    | true, none, .plain s :: ws => do readWords (← p.value o s) ws
    | false, none, ws => do readWords (← p.flag o) ws
    | _, _, _ => throw .refused
  | .short o j :: ws => do
    let (flags, tail) ← match j with
      | none => pure ([], .ofLast o)
      | some cs => letters o cs
    let apply := flags.foldlM Progress.flag p.closeFiles
    match tail, ws with
    | .value o cs, ws => readWords (← (← apply).joinedValue o cs) ws
    | .wanting o, .plain s :: ws => readWords (← (← apply).value o s) ws
    | .wanting _, _ => throw .refused
    | .flag o, ws => readWords (← (← apply).flag o) ws

/-- The request of a command line: at least one file is named and every word has a place. -/
def Request.ofArgs (args : List String) : Except Stop Request := do
  let words := Word.all args
  if words.any (· matches .ambiguous) then throw .refused
  let p ← readWords {} words
  if p.leftover || p.request.files.isEmpty then throw .refused
  return p.request

end Transpile.Command
