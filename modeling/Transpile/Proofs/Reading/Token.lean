import Transpile.Text.Ident
import Mathlib.Tactic.Common

/-! Script text as tokens. A token takes as many characters as it can, so two signs that stand side
by side are one sign where there is such a sign. Comments and strings are not read. -/

namespace Transpile.Reading

inductive Token where
  | word (s : String)
  | number (s : String)
  | sign (s : String)
  deriving DecidableEq, Repr

/-- What a sign begins with is a sign too. -/
def signs : List String :=
  ["(", ")", "[", "]", "\x7b", "\x7d", ";", ",", ".", ":", "~", "?", "?.", "??", "??=",
    "+", "++", "+=", "-", "--", "-=", "*", "**", "*=", "**=", "/", "/=", "%", "%=",
    "=", "==", "===", "=>", "!", "!=", "!==", "<", "<<", "<=", "<<=", ">", ">>", ">>>", ">=", ">>=",
    ">>>=", "&", "&&", "&=", "&&=", "|", "||", "|=", "||=", "^", "^="]

def isWordStart (c : Char) : Bool := Text.isIdentStart c || c = '$'

def isWordPart (c : Char) : Bool := Text.isIdentPart c || c = '$'

namespace Token

def start? (c : Char) : Option Token :=
  if isWordStart c then some (.word (String.singleton c))
  else if c.isDigit then some (.number (String.singleton c))
  else if signs.contains (String.singleton c) then some (.sign (String.singleton c))
  else none

/-- The token with one more character. -/
def extend? : Token → Char → Option Token
  | .word s, c => if isWordPart c then some (.word (s.push c)) else none
  | .number s, c => if c.isDigit then some (.number (s.push c)) else none
  | .sign s, c => if signs.contains (s.push c) then some (.sign (s.push c)) else none

/-- No word follows a number at once, and fractions are not read. -/
def refuses : Token → Char → Bool
  | .number _, c => isWordPart c || c = '.'
  | _, _ => false

/-- The characters as one token. -/
def scan? : List Char → Option Token
  | [] => none
  | c :: cs => if c.isWhitespace then none else (start? c).bind fun t => cs.foldlM extend? t

end Token

/-- The tokens of a text that begins inside the given token. -/
def lexFrom : Option Token → List Char → Option (List Token)
  | t, [] => some t.toList
  | t, c :: cs =>
    match t.bind (·.extend? c) with
    | some t' => lexFrom (some t') cs
    | none =>
      if t.any (·.refuses c) then none
      else if c.isWhitespace then (lexFrom none cs).map (t.toList ++ ·)
      else match Token.start? c with
        | some t' => (lexFrom (some t') cs).map (t.toList ++ ·)
        | none => none

def lex (s : String) : Option (List Token) := lexFrom none s.toList

example : lex "a1 - -b(10)" = some [.word "a1", .sign "-", .sign "-", .word "b", .sign "(",
    .number "10", .sign ")"] := by decide +kernel

example : lex "---a" = some [.sign "--", .sign "-", .word "a"] := by decide +kernel

/-! One token -/

namespace Token

/-- The token ends before what follows. -/
def Ends (t : Token) (rest : List Char) : Prop :=
  ∀ c ∈ rest.head?, t.extend? c = none ∧ t.refuses c = false

theorem ends_cons {t : Token} {c : Char} {rest : List Char} (he : t.extend? c = none)
    (hr : t.refuses c = false) : t.Ends (c :: rest) := by
  intro d hd
  cases hd
  exact ⟨he, hr⟩

theorem scan?_sign {s : String} (hs : s ∈ signs) : scan? s.toList = some (.sign s) := by
  have h : ∀ s ∈ signs, scan? s.toList = some (.sign s) := by decide +kernel
  exact h s hs

/-- A nonempty text of characters of names that begins as a name does. -/
def isName (s : String) : Bool :=
  match s.toList with
  | [] => false
  | c :: cs => Text.isIdentStart c && cs.all Text.isIdentPart

/-- Characters that a kind of token goes on with, added one by one. -/
theorem foldlM_push {kind : String → Token} {part : Char → Bool}
    (hp : ∀ s c, part c = true → (kind s).extend? c = some (kind (s.push c))) {s : String}
    {cs : List Char} (h : ∀ c ∈ cs, part c = true) :
    cs.foldlM extend? (kind s) = some (kind (s ++ String.ofList cs)) := by
  induction cs generalizing s with
  | nil => simp
  | cons c cs ih =>
    have hs : s.push c ++ String.ofList cs = s ++ String.ofList (c :: cs) := by
      apply String.toList_inj.1
      simp
    rw [List.foldlM_cons, hp s c (h c (by simp)), ← hs]
    exact ih fun d hd => h d (by simp [hd])

theorem isWhitespace_cases {c : Char} (h : c.isWhitespace = true) :
    c ∈ [' ', '\t', '\r', '\n'] := by
  simp only [Char.isWhitespace, Bool.or_eq_true, decide_eq_true_eq] at h
  simp only [List.mem_cons, List.not_mem_nil, or_false]
  tauto

theorem scan?_word {s : String} (h : isName s = true) : scan? s.toList = some (.word s) := by
  unfold isName at h
  split at h
  · cases h
  · next c cs hs =>
    obtain ⟨hc, hcs⟩ := Bool.and_eq_true_iff.1 h
    have hblank : c.isWhitespace = false := by
      by_contra hb
      have hmem := isWhitespace_cases (by simpa using hb)
      have hno : ∀ c ∈ [' ', '\t', '\r', '\n'], Text.isIdentStart c = false := by
        simp only [List.forall_mem_cons, List.not_mem_nil, false_implies, implies_true, and_true]
        decide
      rw [hno c hmem] at hc
      cases hc
    have hpart : ∀ d ∈ cs, isWordPart d = true := fun d hd => by
      simp [isWordPart, List.all_eq_true.1 hcs d hd]
    have hstart : start? c = some (.word (String.singleton c)) := by
      simp [start?, isWordStart, hc]
    have hword : String.singleton c ++ String.ofList cs = s := by
      apply String.toList_inj.1
      simp [hs]
    rw [hs, scan?, hblank, hstart]
    have hgrow := foldlM_push (s := String.singleton c)
      (fun s c hc => show (word s).extend? c = some (word (s.push c)) by simp [extend?, hc]) hpart
    rw [hword] at hgrow
    exact hgrow

theorem isDigit_cases {c : Char} (h : c.isDigit = true) :
    c ∈ ['0', '1', '2', '3', '4', '5', '6', '7', '8', '9'] := by
  simp only [Char.isDigit, Bool.and_eq_true, decide_eq_true_eq, ge_iff_le, UInt32.le_iff_toNat_le] at h
  have hn : c.toNat = 48 ∨ c.toNat = 49 ∨ c.toNat = 50 ∨ c.toNat = 51 ∨ c.toNat = 52 ∨ c.toNat = 53 ∨
      c.toNat = 54 ∨ c.toNat = 55 ∨ c.toNat = 56 ∨ c.toNat = 57 := by
    have h1 : 48 ≤ c.toNat := h.1
    have h2 : c.toNat ≤ 57 := h.2
    omega
  rw [← Char.ofNat_toNat c]
  rcases hn with hn | hn | hn | hn | hn | hn | hn | hn | hn | hn <;> rw [hn] <;> decide

theorem scan?_digits {s : String} (hne : s.toList ≠ []) (h : ∀ c ∈ s.toList, c.isDigit = true) :
    scan? s.toList = some (.number s) := by
  cases hs : s.toList with
  | nil => exact absurd hs hne
  | cons c cs =>
    rw [hs] at h
    have hfirst : ∀ c ∈ ['0', '1', '2', '3', '4', '5', '6', '7', '8', '9'],
        c.isWhitespace = false ∧ start? c = some (.number (String.singleton c)) := by
      simp only [List.forall_mem_cons, List.not_mem_nil, false_implies, implies_true, and_true]
      decide +kernel
    obtain ⟨hblank, hstart⟩ := hfirst c (isDigit_cases (h c (by simp)))
    have hnumber : String.singleton c ++ String.ofList cs = s := by
      apply String.toList_inj.1
      simp [hs]
    have hrest : ∀ d ∈ cs, d.isDigit = true := fun d hd => h d (by simp [hd])
    have hgrow := foldlM_push (s := String.singleton c)
      (fun s c hc => show (number s).extend? c = some (number (s.push c)) by simp [extend?, hc]) hrest
    rw [hnumber] at hgrow
    rw [scan?, hblank, hstart]
    exact hgrow

theorem toString_digits (n : Nat) :
    (toString n).toList ≠ [] ∧ ∀ c ∈ (toString n).toList, c.isDigit = true := by
  rw [Nat.toString_eq_repr, Nat.toList_repr]
  exact ⟨Nat.toDigits_ne_nil, fun c hc => Nat.isDigit_of_mem_toDigits (by decide) (by decide) hc⟩

theorem scan?_number (n : Nat) : scan? (toString n).toList = some (.number (toString n)) :=
  scan?_digits (toString_digits n).1 (toString_digits n).2

/-- A sign with one more character is spelled like a sign of the table. -/
theorem extend?_sign {s : String} {c : Char} {t : Token} (h : (sign s).extend? c = some t) :
    s.toList ++ [c] ∈ signs.map String.toList := by
  simp only [extend?] at h
  split_ifs at h with hc
  rw [← String.toList_push]
  exact List.mem_map_of_mem (List.contains_iff_mem.1 hc)

end Token

theorem lexFrom_foldlM {cs : List Char} {t t' : Token} (h : cs.foldlM Token.extend? t = some t')
    (rest : List Char) : lexFrom (some t) (cs ++ rest) = lexFrom (some t') rest := by
  induction cs generalizing t with
  | nil => cases h; rfl
  | cons c cs ih =>
    rw [List.foldlM_cons] at h
    obtain ⟨u, hu, h⟩ := Option.bind_eq_some_iff.1 h
    simp only [List.cons_append, lexFrom, Option.bind_some, hu]
    exact ih h

theorem lexFrom_scan {cs : List Char} {t : Token} (h : Token.scan? cs = some t)
    (rest : List Char) : lexFrom none (cs ++ rest) = lexFrom (some t) rest := by
  cases cs with
  | nil => cases h
  | cons c cs =>
    simp only [Token.scan?] at h
    split_ifs at h with hc
    obtain ⟨u, hu, h⟩ := Option.bind_eq_some_iff.1 h
    simp only [List.cons_append, lexFrom, Option.bind_none, Option.any_none, hc, hu,
      Option.toList_none, List.nil_append, Option.map_id', Bool.false_eq_true, if_false]
    exact lexFrom_foldlM h rest

theorem lexFrom_ends {t : Token} {rest : List Char} (h : t.Ends rest) :
    lexFrom (some t) rest = (lexFrom none rest).map (t :: ·) := by
  cases rest with
  | nil => rfl
  | cons c cs =>
    obtain ⟨he, hr⟩ := h c rfl
    simp only [lexFrom, Option.bind_some, he, Option.any_some, hr, Option.bind_none, Option.any_none,
      Option.toList_some, Option.toList_none, List.nil_append, Option.map_id', Bool.false_eq_true,
      if_false]
    split_ifs
    · rfl
    · split <;> rfl

/-! A text and its tokens -/

/-- What follows an expression does not go on with its last token. -/
def Stops (rest : List Char) : Prop := ∀ c ∈ rest.head?, c ∈ [' ', ')', ',', ';']

/-- The tokens of an update stand in the list. -/
def Updates (ts : List Token) : Prop := .sign "--" ∈ ts ∨ .sign "++" ∈ ts

/-- If there are tokens at all, those of an update are among them. -/
def Spoils (r : Option (List Token)) : Prop := ∀ ts ∈ r, Updates ts

theorem Spoils.map {r : Option (List Token)} (h : Spoils r) (ts : List Token) :
    Spoils (r.map (ts ++ ·)) := by
  intro us hus
  obtain ⟨vs, hvs, rfl⟩ := Option.map_eq_some_iff.1 hus
  rcases h vs hvs with hm | hm
  · exact .inl (by simp [hm])
  · exact .inr (by simp [hm])

/-- Before any stop a clean text gives the tokens, and an update spoils the others. -/
def Lexes (clean : Prop) (cs : List Char) (ts : List Token) : Prop :=
  ∀ rest, Stops rest → (clean → lexFrom none (cs ++ rest) = (lexFrom none rest).map (ts ++ ·)) ∧
    (¬ clean → Spoils (lexFrom none (cs ++ rest)))

theorem Lexes.congr {p q : Prop} {cs : List Char} {ts : List Token} (h : Lexes p cs ts)
    (hpq : p ↔ q) : Lexes q cs ts :=
  propext hpq ▸ h

theorem lexes_nil : Lexes True [] [] := fun rest _ => ⟨fun _ => by simp, fun h => absurd trivial h⟩

theorem lexes_blank {p : Prop} {cs : List Char} {ts : List Token} (h : Lexes p cs ts) :
    Lexes p (' ' :: cs) ts := by
  intro rest hr
  have hb : lexFrom none (' ' :: (cs ++ rest)) = lexFrom none (cs ++ rest) := by
    rw [lexFrom]
    simp
  rw [List.cons_append, hb]
  exact h rest hr

/-- A token before a text at whose start it ends. -/
theorem lexes_cons {p : Prop} {cs ds : List Char} {t : Token} {ts : List Token}
    (ht : Token.scan? cs = some t) (hend : ∀ rest, Stops rest → t.Ends (ds ++ rest))
    (h : Lexes p ds ts) : Lexes p (cs ++ ds) (t :: ts) := by
  intro rest hr
  rw [List.append_assoc, lexFrom_scan ht, lexFrom_ends (hend rest hr)]
  refine ⟨fun hp => ?_, fun hp => ((h rest hr).2 hp).map [t]⟩
  rw [(h rest hr).1 hp, Option.map_map]
  rfl

theorem lexes_append {p q : Prop} {cs ds : List Char} {ts us : List Token} (h1 : Lexes p cs ts)
    (hstop : ∀ rest, Stops rest → Stops (ds ++ rest)) (h2 : Lexes q ds us) :
    Lexes (p ∧ q) (cs ++ ds) (ts ++ us) := by
  intro rest hr
  rw [List.append_assoc]
  obtain ⟨hclean, hspoils⟩ := h1 (ds ++ rest) (hstop rest hr)
  refine ⟨fun ⟨hp, hq⟩ => ?_, fun hn => ?_⟩
  · rw [hclean hp, (h2 rest hr).1 hq, Option.map_map]
    simp [Function.comp_def, List.append_assoc]
  · by_cases hp : p
    · rw [hclean hp]
      exact ((h2 rest hr).2 fun hq => hn ⟨hp, hq⟩).map ts
    · exact hspoils hp

theorem stops_cons {c : Char} (hc : c ∈ [' ', ')', ',', ';']) (rest : List Char) :
    Stops (c :: rest) := by
  intro d hd
  cases hd
  exact hc

namespace Token

/-- Words, numbers and closing parentheses end at every stop. -/
theorem ends_of_stops {t : Token} (h : ∀ c ∈ [' ', ')', ',', ';'], t.extend? c = none ∧
    t.refuses c = false) {rest : List Char} (hr : Stops rest) : t.Ends rest :=
  fun c hc => h c (hr c hc)

theorem word_ends (s : String) {rest : List Char} (hr : Stops rest) : (word s).Ends rest := by
  have hpart : ∀ c ∈ [' ', ')', ',', ';'], isWordPart c = false := by
    simp only [List.forall_mem_cons, List.not_mem_nil, false_implies, implies_true, and_true]
    decide
  exact ends_of_stops (fun c hc => by simp [extend?, refuses, hpart c hc]) hr

theorem number_ends (s : String) {rest : List Char} (hr : Stops rest) : (number s).Ends rest := by
  have hpart : ∀ c ∈ [' ', ')', ',', ';'], isWordPart c = false ∧ c.isDigit = false ∧ c ≠ '.' := by
    simp only [List.forall_mem_cons, List.not_mem_nil, false_implies, implies_true, and_true]
    decide
  refine ends_of_stops (fun c hc => ?_) hr
  obtain ⟨hw, hd, hp⟩ := hpart c hc
  simp [extend?, refuses, hw, hd, hp]

theorem close_ends {rest : List Char} (hr : Stops rest) : (sign ")").Ends rest := by
  refine ends_of_stops ?_ hr
  simp only [List.forall_mem_cons, List.not_mem_nil, false_implies, implies_true, and_true]
  decide +kernel

theorem sign_ends_blank (s : String) (rest : List Char) : (sign s).Ends (' ' :: rest) := by
  refine ends_cons ?_ rfl
  by_contra h
  obtain ⟨t, ht⟩ := Option.ne_none_iff_exists'.1 h
  obtain ⟨s', hs', he⟩ := List.mem_map.1 (extend?_sign ht)
  have hno : ∀ s ∈ signs, ' ' ∉ s.toList := by decide +kernel
  exact hno s' hs' (by rw [he]; simp)

/-- Signs that no other sign begins with. -/
theorem sign_ends {s : String} (hs : s ∈ ["(", ",", ".", "--", "++"]) (rest : List Char) :
    (sign s).Ends rest := by
  refine fun c _ => ⟨?_, rfl⟩
  by_contra h
  obtain ⟨t, ht⟩ := Option.ne_none_iff_exists'.1 h
  have hm := extend?_sign ht
  simp only [List.mem_cons, List.not_mem_nil, or_false] at hs
  rcases hs with rfl | rfl | rfl | rfl | rfl <;> simp [signs] at hm

end Token

theorem lexes_word {s : String} (hs : Token.isName s = true) : Lexes True s.toList [.word s] := by
  rw [← List.append_nil s.toList]
  exact lexes_cons (Token.scan?_word hs) (fun _ hr => Token.word_ends s hr) lexes_nil

theorem lexes_number (n : Nat) : Lexes True (toString n).toList [.number (toString n)] := by
  rw [← List.append_nil (toString n).toList]
  exact lexes_cons (Token.scan?_number n) (fun _ hr => Token.number_ends _ hr) lexes_nil

theorem lexes_paren {p : Prop} {cs : List Char} {ts : List Token} (h : Lexes p cs ts) :
    Lexes p ('(' :: (cs ++ [')'])) (Token.sign "(" :: (ts ++ [Token.sign ")"])) := by
  have hclose : Lexes True [')'] [.sign ")"] :=
    lexes_cons (Token.scan?_sign (s := ")") (by decide)) (fun _ hr => Token.close_ends hr) lexes_nil
  have hin := lexes_append h (fun rest _ => stops_cons (by decide) rest) hclose
  exact lexes_cons (Token.scan?_sign (s := "(") (by decide))
    (fun _ _ => Token.sign_ends (by decide) _) (hin.congr (and_iff_left trivial))

/-- A sign between two texts with a blank on either side of it. -/
theorem lexes_spaced {p q : Prop} {cs ds : List Char} {ts us : List Token} {s : String}
    (h1 : Lexes p cs ts) (hs : s ∈ signs) (h2 : Lexes q ds us) :
    Lexes (p ∧ q) (cs ++ ' ' :: (s.toList ++ ' ' :: ds)) (ts ++ .sign s :: us) :=
  lexes_append h1 (fun rest _ => stops_cons (by decide) _) <| lexes_blank <|
    lexes_cons (Token.scan?_sign hs) (fun rest _ => Token.sign_ends_blank s _) (lexes_blank h2)

/-- What the text of an expression can begin with. -/
def Opens (c : Char) : Prop :=
  isWordStart c = true ∨ c.isDigit = true ∨ c ∈ ['(', '-', '+', '!', '~']

theorem not_opens : ¬ Opens '=' := by
  rintro (h | h | h)
  · revert h; decide
  · revert h; decide
  · revert h; decide

/-- A sign right before a text. The same sign at its start makes an update of the two. -/
theorem lexes_unary {p : Prop} {u : String} (hu : u ∈ ["-", "+", "!", "~"]) {c : Char}
    {cs : List Char} {ts : List Token} (hc : Opens c) (h : Lexes p (c :: cs) ts) :
    Lexes (¬ (u ∈ ["-", "+"] ∧ u.toList = [c]) ∧ p) (u.toList ++ c :: cs) (.sign u :: ts) := by
  have hsign : u ∈ signs := by
    have hall : ∀ u ∈ ["-", "+", "!", "~"], u ∈ signs := by decide +kernel
    exact hall u hu
  cases he : (Token.sign u).extend? c with
  | none =>
    refine lexes_cons (Token.scan?_sign hsign) (fun rest _ => Token.ends_cons he rfl) ?_
    have hdiffer : ¬ (u ∈ ["-", "+"] ∧ u.toList = [c]) := by
      rintro ⟨hmem, hlist⟩
      simp only [List.mem_cons, List.not_mem_nil, or_false] at hmem
      rcases hmem with rfl | rfl <;> cases hlist <;> revert he <;> decide +kernel
    exact h.congr (and_iff_right hdiffer).symm
  | some t =>
    have hm := Token.extend?_sign he
    have hne : c ≠ '=' := fun e => not_opens (e ▸ hc)
    have hsame : u ∈ ["-", "+"] ∧ u.toList = [c] := by
      simp only [List.mem_cons, List.not_mem_nil, or_false] at hu
      rcases hu with rfl | rfl | rfl | rfl
      all_goals simp [signs, hne] at hm
      all_goals subst hm; decide
    have ht : t = .sign "--" ∨ t = .sign "++" := by
      obtain ⟨hmem, hlist⟩ := hsame
      simp only [List.mem_cons, List.not_mem_nil, or_false] at hmem
      rcases hmem with rfl | rfl <;> cases hlist
      · exact .inl (Option.some.inj (he.symm.trans (by decide +kernel)))
      · exact .inr (Option.some.inj (he.symm.trans (by decide +kernel)))
    refine fun rest hr => ⟨fun h => absurd hsame h.1, fun _ => ?_⟩
    have hends : t.Ends (cs ++ rest) := by
      rcases ht with rfl | rfl <;> exact Token.sign_ends (by decide) _
    rw [List.append_assoc, lexFrom_scan (Token.scan?_sign hsign)]
    simp only [List.cons_append, lexFrom, Option.bind_some, he]
    rw [lexFrom_ends hends]
    intro us hus
    obtain ⟨vs, -, rfl⟩ := Option.map_eq_some_iff.1 hus
    exact ht.imp (by rintro rfl; simp) (by rintro rfl; simp)

end Transpile.Reading
