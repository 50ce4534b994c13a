import Transpile.Proofs.Expressions
import Transpile.Proofs.Printing

/-! String literals of a script. A literal is read from its code points, and its value is a list of
UTF-16 code units. An escape takes more of the text than it gives to the value, so a literal whose
value is as long as its text has no escapes. A string is written between quotes as it is, so it is
read back exactly if none of its characters has a meaning in a literal. -/

namespace Transpile.Reading

open Script

/-! Code units -/

/-- The code units of a code point: two of them above the first plane. -/
def units (n : Nat) : List Nat :=
  if n < 0x10000 then [n]
  else [0xd800 + (n - 0x10000) / 0x400, 0xdc00 + (n - 0x10000) % 0x400]

def encode (ps : List Nat) : List Nat := ps.flatMap units

theorem length_units (n : Nat) : 1 ≤ (units n).length ∧ (units n).length ≤ 2 := by
  unfold units
  split_ifs <;> simp

@[simp] theorem encode_nil : encode [] = [] := rfl

@[simp] theorem encode_cons (n : Nat) (ps : List Nat) : encode (n :: ps) = units n ++ encode ps := rfl

@[simp] theorem encode_append (ps qs : List Nat) : encode (ps ++ qs) = encode ps ++ encode qs :=
  List.flatMap_append

theorem length_le_encode (ps : List Nat) : ps.length ≤ (encode ps).length := by
  induction ps with
  | nil => exact Nat.le_refl 0
  | cons n ps ih =>
    have hn := (length_units n).1
    rw [encode_cons, List.length_cons, List.length_append]
    omega

/-! Escapes -/

/-- What the editions of the language differ in. -/
structure Edition where
  /-- A literal may hold the line and the paragraph separator. -/
  separators : Bool
  /-- A code point may be written in braces. -/
  braces : Bool
  /-- Octal digits are an escape, as they are outside strict code. -/
  octal : Bool

def quote : Nat := '"'.toNat

def backslash : Nat := '\\'.toNat

def lineFeed : Nat := '\n'.toNat

def carriageReturn : Nat := '\r'.toNat

def isSeparator (n : Nat) : Bool := n = 0x2028 || n = 0x2029

def endsLine (n : Nat) : Bool := n = lineFeed || n = carriageReturn || isSeparator n

/-- A character that stands for itself in a literal. -/
def Edition.isPlain (e : Edition) (n : Nat) : Bool :=
  n != quote && n != backslash && (!endsLine n || e.separators && isSeparator n)

def isDecimal (n : Nat) : Bool := '0'.toNat ≤ n && n ≤ '9'.toNat

def isOctal (n : Nat) : Bool := '0'.toNat ≤ n && n ≤ '7'.toNat

def hexValue? (n : Nat) : Option Nat :=
  if isDecimal n then some (n - '0'.toNat)
  else if 'a'.toNat ≤ n && n ≤ 'f'.toNat then some (n - 'a'.toNat + 10)
  else if 'A'.toNat ≤ n && n ≤ 'F'.toNat then some (n - 'A'.toNat + 10)
  else none

/-- So many hexadecimal digits after the value `v`, and the text after them. -/
def hexDigits? : Nat → Nat → List Nat → Option (Nat × List Nat)
  | 0, v, cs => some (v, cs)
  | _ + 1, _, [] => none
  | k + 1, v, c :: cs => (hexValue? c).bind fun d => hexDigits? k (v * 16 + d) cs

/-- Hexadecimal digits up to a closing brace. -/
def bracedDigits? : Nat → List Nat → Option (Nat × List Nat)
  | _, [] => none
  | v, c :: cs =>
    if c = '\x7d'.toNat then some (v, cs) else (hexValue? c).bind fun d => bracedDigits? (v * 16 + d) cs

/-- At most so many octal digits after the value `v`. -/
def octalDigits : Nat → Nat → List Nat → Nat × List Nat
  | k + 1, v, c :: cs =>
    if isOctal c then octalDigits k (v * 8 + (c - '0'.toNat)) cs else (v, c :: cs)
  | _, v, cs => (v, cs)

/-- After a backslash and a `u`. -/
def unicodeEscape? (e : Edition) (cs : List Nat) : Option (List Nat × List Nat) :=
  match cs with
  | c :: d :: cs' =>
    if e.braces && c = '\x7b'.toNat then do
      let v ← hexValue? d
      let r ← bracedDigits? v cs'
      if r.1 ≤ 0x10ffff then some (units r.1, r.2) else none
    else (hexDigits? 4 0 cs).map fun r => ([r.1], r.2)
  | _ => none

/-- After a backslash and the digit `c`. -/
def digitEscape? (e : Edition) (c : Nat) (cs : List Nat) : Option (List Nat × List Nat) :=
  if c = '0'.toNat && !cs.head?.any isDecimal then some ([0], cs)
  else if !e.octal then none
  else if isOctal c then
    let r := octalDigits (if c ≤ '3'.toNat then 2 else 1) (c - '0'.toNat) cs
    some ([r.1], r.2)
  else some ([c], cs)

/-- Letters that stand for control characters after a backslash. -/
def controls : List (Nat × Nat) :=
  [('b'.toNat, 8), ('t'.toNat, 9), ('n'.toNat, 10), ('v'.toNat, 11), ('f'.toNat, 12), ('r'.toNat, 13)]

/-- What the text after a backslash stands for, and the text after the escape. -/
def escape? (e : Edition) : List Nat → Option (List Nat × List Nat)
  | [] => none
  | c :: cs =>
    if c = carriageReturn && cs.head? = some lineFeed then some ([], cs.tail)
    else if endsLine c then some ([], cs)
    else if c = 'x'.toNat then (hexDigits? 2 0 cs).map fun r => ([r.1], r.2)
    else if c = 'u'.toNat then unicodeEscape? e cs
    else if isDecimal c then digitEscape? e c cs
    else match controls.lookup c with
      | some n => some ([n], cs)
      | none => some (units c, cs)

/-- The value takes something of the text, and is no longer than that. -/
def Takes (cs : List Nat) (r : List Nat × List Nat) : Prop :=
  ∃ used, cs = used ++ r.2 ∧ used ≠ [] ∧ r.1.length ≤ (encode used).length

theorem takes_one {c : Nat} {cs v : List Nat} (hv : v.length ≤ (units c).length) :
    Takes (c :: cs) (v, cs) :=
  ⟨[c], rfl, by simp, by simpa using hv⟩

theorem Takes.cons {c : Nat} {cs : List Nat} {r : List Nat × List Nat} (h : Takes cs r) :
    Takes (c :: cs) r := by
  obtain ⟨used, rfl, -, hv⟩ := h
  refine ⟨c :: used, rfl, by simp, ?_⟩
  rw [encode_cons, List.length_append]
  omega

theorem hexDigits?_suffix {k v : Nat} {cs : List Nat} {r : Nat × List Nat}
    (h : hexDigits? k v cs = some r) : ∃ used, cs = used ++ r.2 := by
  induction k generalizing v cs with
  | zero =>
    cases h
    exact ⟨[], rfl⟩
  | succ k ih =>
    cases cs with
    | nil => cases h
    | cons c cs =>
      obtain ⟨d, -, h⟩ := Option.bind_eq_some_iff.1 h
      obtain ⟨used, rfl⟩ := ih h
      exact ⟨c :: used, rfl⟩

theorem bracedDigits?_suffix {v : Nat} {cs : List Nat} {r : Nat × List Nat}
    (h : bracedDigits? v cs = some r) : ∃ used, cs = used ++ r.2 ∧ used ≠ [] := by
  induction cs generalizing v with
  | nil => cases h
  | cons c cs ih =>
    unfold bracedDigits? at h
    split_ifs at h
    · cases h
      exact ⟨[c], rfl, by simp⟩
    · obtain ⟨d, -, h⟩ := Option.bind_eq_some_iff.1 h
      obtain ⟨used, rfl, -⟩ := ih h
      exact ⟨c :: used, rfl, by simp⟩

theorem octalDigits_suffix (k v : Nat) (cs : List Nat) :
    ∃ used, cs = used ++ (octalDigits k v cs).2 := by
  induction k generalizing v cs with
  | zero => exact ⟨[], rfl⟩
  | succ k ih =>
    cases cs with
    | nil => exact ⟨[], rfl⟩
    | cons c cs =>
      unfold octalDigits
      split_ifs
      · obtain ⟨used, hcs⟩ := ih (v * 8 + (c - '0'.toNat)) cs
        exact ⟨c :: used, by rw [List.cons_append, ← hcs]⟩
      · exact ⟨[], rfl⟩

/-- A number after a character takes that, so it may give one code unit. -/
theorem takes_number {c n : Nat} {cs used rest : List Nat} (h : cs = used ++ rest) :
    Takes (c :: cs) ([n], rest) := by
  refine ⟨c :: used, by rw [h]; rfl, by simp, ?_⟩
  have := (length_units c).1
  rw [encode_cons, List.length_append]
  simpa using by omega

theorem takes_hexDigits {k c : Nat} {cs : List Nat} {r : List Nat × List Nat}
    (h : (hexDigits? k 0 cs).map (fun r => ([r.1], r.2)) = some r) : Takes (c :: cs) r := by
  obtain ⟨q, hq, rfl⟩ := Option.map_eq_some_iff.1 h
  obtain ⟨used, hcs⟩ := hexDigits?_suffix hq
  exact takes_number hcs

theorem takes_unicodeEscape {e : Edition} {c : Nat} {cs : List Nat} {r : List Nat × List Nat}
    (h : unicodeEscape? e cs = some r) : Takes (c :: cs) r := by
  unfold unicodeEscape? at h
  split at h
  · next b d cs' =>
    split_ifs at h
    · -- the braces alone take as much as a code point can give
      obtain ⟨v, -, hdigits⟩ := Option.bind_eq_some_iff.1 h
      obtain ⟨q, hq, hvalue⟩ := Option.bind_eq_some_iff.1 hdigits
      obtain ⟨used, rfl, -⟩ := bracedDigits?_suffix hq
      split_ifs at hvalue
      cases hvalue
      refine ⟨c :: b :: d :: used, rfl, by simp, ?_⟩
      have hlength := length_le_encode (c :: b :: d :: used)
      have hunits := (length_units q.1).2
      simp only [List.length_cons] at hlength
      change (units q.1).length ≤ _
      omega
    · exact takes_hexDigits h
  · cases h

theorem takes_digitEscape {e : Edition} {c : Nat} {cs : List Nat} {r : List Nat × List Nat}
    (h : digitEscape? e c cs = some r) : Takes (c :: cs) r := by
  have hone {n : Nat} : Takes (c :: cs) ([n], cs) := takes_one (length_units c).1
  unfold digitEscape? at h
  split_ifs at h
  · cases h
    exact hone
  · obtain ⟨used, hcs⟩ := octalDigits_suffix 2 (c - '0'.toNat) cs
    cases h
    exact takes_number hcs
  · obtain ⟨used, hcs⟩ := octalDigits_suffix 1 (c - '0'.toNat) cs
    cases h
    exact takes_number hcs
  · cases h
    exact hone

theorem takes_escape {e : Edition} {cs : List Nat} {r : List Nat × List Nat}
    (h : escape? e cs = some r) : Takes cs r := by
  cases cs with
  | nil => cases h
  | cons c cs =>
    rw [escape?] at h
    split_ifs at h with hreturn
    · cases h
      cases cs with
      | nil => simp at hreturn
      | cons d cs => exact (takes_one (Nat.zero_le _)).cons
    · cases h
      exact takes_one (Nat.zero_le _)
    · exact takes_hexDigits h
    · exact takes_unicodeEscape h
    · exact takes_digitEscape h
    · split at h
      · cases h
        exact takes_one (length_units c).1
      · cases h
        exact takes_one (Nat.le_refl _)

theorem Takes.lt {cs : List Nat} {r : List Nat × List Nat} (h : Takes cs r) :
    r.2.length < cs.length := by
  obtain ⟨used, rfl, hused, -⟩ := h
  have := List.length_pos_iff.2 hused
  rw [List.length_append]
  omega

/-! Literals -/

/-- The value of a literal of which the text is read from after its opening quote to its end. -/
def literalRest? (e : Edition) : List Nat → Option (List Nat)
  | [] => none
  | c :: cs =>
    if c = quote then if cs.isEmpty then some [] else none
    else if c = backslash then
      match hr : escape? e cs with
      | some r =>
        have := (takes_escape hr).lt
        (literalRest? e r.2).map (r.1 ++ ·)
      | none => none
    else if e.isPlain c then (literalRest? e cs).map (units c ++ ·)
    else none
termination_by cs => cs.length

/-- The value of a text that is one double-quoted literal. -/
def literal? (e : Edition) : List Nat → Option (List Nat)
  | c :: cs => if c = quote then literalRest? e cs else none
  | [] => none

section

variable {e : Edition}

theorem literalRest?_quote : literalRest? e [quote] = some [] := by
  rw [literalRest?, if_pos rfl]
  rfl

theorem isPlain_ne {n : Nat} (h : e.isPlain n = true) : n ≠ quote ∧ n ≠ backslash := by
  simp only [Edition.isPlain, Bool.and_eq_true, bne_iff_ne] at h
  exact h.1

theorem literalRest?_plain {n : Nat} (h : e.isPlain n = true) (cs : List Nat) :
    literalRest? e (n :: cs) = (literalRest? e cs).map (units n ++ ·) := by
  obtain ⟨hquote, hbackslash⟩ := isPlain_ne h
  rw [literalRest?, if_neg hquote, if_neg hbackslash, if_pos h]

/-- Plain characters are read as they are. -/
theorem literalRest?_of_plain {ps : List Nat} (h : ∀ n ∈ ps, e.isPlain n = true) :
    literalRest? e (ps ++ [quote]) = some (encode ps) := by
  induction ps with
  | nil => exact literalRest?_quote
  | cons n ps ih =>
    rw [List.cons_append, literalRest?_plain (h n (.head _)), ih fun m hm => h m (.tail _ hm)]
    rfl

/-- The value of a literal is shorter than its text, by the closing quote alone only if all
characters are plain. -/
theorem length_literalRest? {cs v : List Nat} (h : literalRest? e cs = some v) :
    v.length + 1 ≤ (encode cs).length ∧ (v.length + 1 = (encode cs).length →
      ∃ ps, cs = ps ++ [quote] ∧ ∀ n ∈ ps, e.isPlain n = true) := by
  fun_induction literalRest? e cs generalizing v with
  | case1 => cases h
  | case2 cs hempty =>
    obtain rfl := List.isEmpty_iff.1 hempty
    cases h
    exact ⟨by decide, fun _ => ⟨[], rfl, by simp⟩⟩
  | case3 => cases h
  | case4 cs r hr hlt hquote ih =>
    -- the backslash itself is left over
    obtain ⟨w, hw, rfl⟩ := Option.map_eq_some_iff.1 h
    obtain ⟨used, rfl, -, hused⟩ := takes_escape hr
    have hlength := (ih hw).1
    have hunit := (length_units backslash).1
    simp only [encode_cons, encode_append, List.length_append] at hused ⊢
    exact ⟨by omega, fun heq => by omega⟩
  | case5 => cases h
  | case6 c cs hquote hbackslash hplain ih =>
    obtain ⟨w, hw, rfl⟩ := Option.map_eq_some_iff.1 h
    obtain ⟨hlength, hequal⟩ := ih hw
    simp only [encode_cons, List.length_append] at hlength ⊢
    refine ⟨by omega, fun heq => ?_⟩
    obtain ⟨ps, rfl, hps⟩ := hequal (by omega)
    exact ⟨c :: ps, rfl, List.forall_mem_cons.2 ⟨hplain, hps⟩⟩
  | case7 => cases h

/-- Text between quotes reads as a literal with that text as its value exactly if all of it is
plain. -/
theorem literal?_quoted_iff (ps : List Nat) :
    literal? e (quote :: (ps ++ [quote])) = some (encode ps) ↔ ∀ n ∈ ps, e.isPlain n = true := by
  rw [literal?, if_pos rfl]
  refine ⟨fun h => ?_, literalRest?_of_plain⟩
  have hlength : (encode ps).length + 1 = (encode (ps ++ [quote])).length := by
    rw [encode_append, List.length_append]
    rfl
  obtain ⟨qs, heq, hqs⟩ := (length_literalRest? h).2 hlength
  rwa [List.append_cancel_right heq]

end

/-! Strings of the source -/

theorem characters_concat {d : Char} (hd : Text.isMarked d = false) (cs : List Char) :
    Text.characters (cs ++ [d]) = Text.characters cs ++ [[d]] := by
  fun_induction Text.characters cs with
  | case1 => rfl
  | case2 c => simp [Text.characters, hd]
  | case3 c d' cs hmark ih =>
    simp only [List.cons_append, Text.characters, hmark, if_true, ih]
  | case4 c d' cs hmark ih =>
    rw [List.cons_append] at ih
    simp only [List.cons_append, Text.characters, hmark, ih]
    simp

theorem points_quoted (cs : List Char) :
    Text.points ('"' :: (cs ++ ['"'])) = quote :: (Text.points cs ++ [quote]) := by
  have hfirst : Text.characters ('"' :: (cs ++ ['"'])) = ['"'] :: Text.characters (cs ++ ['"']) := by
    cases cs <;> rfl
  rw [Text.points, hfirst, characters_concat (by decide), List.map_cons, List.map_append]
  rfl

end Transpile.Reading

namespace Transpile.Walk

open Script Source Reading

/-- A string becomes itself between quotes. -/
theorem gives_string {o : Options} {I : State → Prop} (ops : Stack Kind) (hI : Stable I)
    (s : String) : Gives o I ops (visit (.node .str [.text s]))
      (· = (Form.leaf .string (text ("\"" ++ s ++ "\""))).piece) :=
  gives_node hI rfl rfl (gives_fields (yields_atom _) gives_no_fields) fun _ _ =>
    gives_bind_eq (gives_atomField _) (gives_pure rfl)

/-- A string is rendered, at any width and level, as one text, which reads as a literal with the
string as its value exactly if no character of the string is a double quote, a backslash or the end
of a line; separators count as the latter in editions that do not have them in literals. -/
theorem string_reads_back_iff (s : String) (o : Options) {st : State} (hst : Ready st) :
    ∃ p st' t, run (visit (.node .str [.text s])) o st = (.ok p, st') ∧
      (∀ width level, p.renderAt width level = (.ok (.text t), level)) ∧
      ∀ e, literal? e (Text.points t.toList) = some (encode (Text.points s.toList)) ↔
        ∀ n ∈ Text.points s.toList, e.isPlain n = true := by
  obtain ⟨p, st', hrun, -, rfl⟩ := gives_string (o := o) st.operators stable_true s st
    ⟨hst, trivial, rfl⟩
  refine ⟨_, st', "\"" ++ s ++ "\"", hrun, fun _ _ => rfl, fun e => ?_⟩
  have htext : ("\"" ++ s ++ "\"").toList = '"' :: (s.toList ++ ['"']) := by simp
  rw [htext, points_quoted]
  exact literal?_quoted_iff _

/-- A quote ends the literal too early, in every edition. -/
theorem innerQuote_not_read_back : Ready {} ∧
    ∃ p st' t, run (visit (.node .str [.text "a\"b"])) {} {} = (.ok p, st') ∧
      p.renderAt 2 0 = (.ok (.text t), 0) ∧
      ∀ e, literal? e (Text.points t.toList) ≠ some (encode (Text.points "a\"b".toList)) := by
  obtain ⟨p, st', t, hrun, hrender, hread⟩ := string_reads_back_iff "a\"b" {} ready_start
  refine ⟨ready_start, p, st', t, hrun, hrender 2 0, fun e h => ?_⟩
  have hplain := (hread e).1 h quote (by decide)
  exact (isPlain_ne hplain).1 rfl

end Transpile.Walk
