import Transpile.Proofs.Grouping.Term

/-! The tokens of the text of a term. They are those of its parts in order, unless a sign stands right
before the same sign, where the two make an update. -/

namespace Transpile.Grouping

open Reading

def groupTokens (inner : Bool) (ts : List Token) : List Token :=
  if inner then .sign "(" :: (ts ++ [.sign ")"]) else ts

def callTokens (f : List Token) (args : List (List Token)) : List Token :=
  f ++ .sign "(" :: (commas args ++ [.sign ")"])

def infixTokens (ts : List Token) (op : BinaryOp) (us : List Token) : List Token :=
  ts ++ .sign op.sign :: us

def mathTokens (m : String) : List Token := [.word "Math", .sign ".", .word m]

/-- Signs that make another sign when they are written twice. -/
def Sign.doubles (s : Sign) : Bool := s = .minus || s = .plus

namespace Term

mutual

def tokens : Bool → Term → List Token
  | _, .name n => [.word n.text]
  | _, .number n => [.number (toString n)]
  | inner, .call f args => callTokens [.word f.text] (tokensAll inner args)
  | inner, .unary s x => .sign s.op.sign :: x.tokens inner
  | _, .power l r => callTokens (mathTokens "pow") [l.tokens true, r.tokens true]
  | _, .floorDiv l r =>
    callTokens (mathTokens "floor") [infixTokens (l.tokens true) .div (r.tokens true)]
  | inner, .binary op l r => groupTokens (wraps op && inner)
      (infixTokens (l.tokens (opens op || inner)) op (r.tokens (opens op || inner)))

def tokensAll : Bool → List Term → List (List Token)
  | _, [] => []
  | inner, t :: ts => t.tokens inner :: tokensAll inner ts

end

/-- The sign that the text begins with. -/
def lead : Bool → Term → Option Sign
  | _, .unary s _ => some s
  | inner, .binary op l _ => if wraps op && inner then none else l.lead (opens op || inner)
  | _, _ => none

mutual

/-- No sign stands right before the same sign. -/
def isClean : Bool → Term → Bool
  | _, .name _ => true
  | _, .number _ => true
  | inner, .call _ args => allClean inner args
  | inner, .unary s x => !(s.doubles && x.lead inner = some s) && x.isClean inner
  | _, .power l r => l.isClean true && r.isClean true
  | _, .floorDiv l r => l.isClean true && r.isClean true
  | inner, .binary op l r => l.isClean (opens op || inner) && r.isClean (opens op || inner)

def allClean : Bool → List Term → Bool
  | _, [] => true
  | inner, t :: ts => t.isClean inner && allClean inner ts

end

theorem tokensAll_eq (inner : Bool) (ts : List Term) :
    tokensAll inner ts = ts.map (tokens inner) := by
  induction ts with
  | nil => rfl
  | cons t ts ih => rw [tokensAll, ih]; rfl

theorem allClean_iff {inner : Bool} {ts : List Term} :
    allClean inner ts = true ↔ ∀ t ∈ ts, t.isClean inner = true := by
  induction ts with
  | nil => simp [allClean]
  | cons t ts ih => simp [allClean, ih]

end Term

/-! The first character -/

/-- The text begins with a character of an operand, and with a sign's only where the sign leads. -/
def Begins (cs : List Char) (lead : Option Sign) : Prop :=
  ∃ c ds, cs = c :: ds ∧ Opens c ∧ ∀ s : Sign, s.op.sign.toList = [c] ↔ lead = some s

theorem begins_none {c : Char} (hc : isWordStart c = true ∨ c.isDigit = true ∨ c = '(')
    (ds : List Char) : Begins (c :: ds) none := by
  refine ⟨c, ds, rfl, ?_, fun s => ⟨fun h => ?_, fun h => by cases h⟩⟩
  · rcases hc with h | h | rfl
    · exact .inl h
    · exact .inr (.inl h)
    · exact .inr (.inr (by decide))
  · have hsign : ∀ c ∈ ['-', '+', '!', '~'], isWordStart c = false ∧ c.isDigit = false ∧ c ≠ '(' := by
      simp only [List.forall_mem_cons, List.not_mem_nil, false_implies, implies_true, and_true]
      decide
    have hm : c ∈ ['-', '+', '!', '~'] := by
      cases s <;> cases h <;> decide
    obtain ⟨h1, h2, h3⟩ := hsign c hm
    rcases hc with h | h | h
    · rw [h1] at h; cases h
    · rw [h2] at h; cases h
    · exact absurd h h3

theorem Begins.append {cs : List Char} {lead : Option Sign} (h : Begins cs lead) (ds : List Char) :
    Begins (cs ++ ds) lead := by
  obtain ⟨c, es, rfl, hc, hs⟩ := h
  exact ⟨c, es ++ ds, rfl, hc, hs⟩

theorem begins_name {s : String} (hs : Token.isName s = true) : Begins s.toList none := by
  unfold Token.isName at hs
  split at hs
  · cases hs
  · next c cs hcs =>
    rw [hcs]
    exact begins_none (.inl (by simp [isWordStart, (Bool.and_eq_true_iff.1 hs).1])) cs

theorem begins_sign (s : Sign) : Begins s.op.sign.toList (some s) := by
  have opens {c : Char} (hc : c ∈ ['(', '-', '+', '!', '~']) : Opens c := .inr (.inr hc)
  cases s with
  | minus => exact ⟨'-', [], rfl, opens (by decide), fun s => by cases s <;> decide⟩
  | plus => exact ⟨'+', [], rfl, opens (by decide), fun s => by cases s <;> decide⟩
  | not => exact ⟨'!', [], rfl, opens (by decide), fun s => by cases s <;> decide⟩
  | invert => exact ⟨'~', [], rfl, opens (by decide), fun s => by cases s <;> decide⟩

theorem begins_text (t : Term) (inner : Bool) : Begins (t.text inner).toList (t.lead inner) := by
  induction t using Term.induction generalizing inner with
  | name n => exact begins_name n.isName
  | number n =>
    obtain ⟨hne, hall⟩ := Token.toString_digits n
    obtain ⟨c, cs, hcs⟩ := List.exists_cons_of_ne_nil hne
    simp only [Term.text, hcs]
    exact begins_none (.inr (.inl (hall c (hcs ▸ List.mem_cons_self)))) cs
  | call f args ih =>
    simp only [Term.text, callText, String.toList_append, List.append_assoc]
    exact (begins_name f.isName).append _
  | unary s x ih =>
    simp only [Term.text, String.toList_append]
    exact (begins_sign s).append _
  | power l r ihl ihr =>
    simp only [Term.text, callText, mathText, String.toList_append, List.append_assoc]
    exact Begins.append (begins_name (s := "Math") (by decide)) _
  | floorDiv l r ihl ihr =>
    simp only [Term.text, callText, mathText, String.toList_append, List.append_assoc]
    exact Begins.append (begins_name (s := "Math") (by decide)) _
  | binary op l r ihl ihr =>
    simp only [Term.text, Term.lead, parens]
    split_ifs
    · rw [String.toList_append, String.toList_append, List.append_assoc]
      exact begins_none (.inr (.inr rfl)) _
    · simp only [infixText, String.toList_append, List.append_assoc]
      exact (ihl _).append _

/-! The tokens -/

theorem lexes_commas {α : Type} {args : List α} {p : α → Prop} {f : α → List Char}
    {g : α → List Token} (h : ∀ a ∈ args, Lexes (p a) (f a) (g a)) :
    Lexes (∀ a ∈ args, p a) (List.intercalate [',', ' '] (args.map f)) (commas (args.map g)) := by
  induction args with
  | nil => exact lexes_nil.congr (by simp)
  | cons a args ih =>
    cases args with
    | nil => simpa [commas] using h a (by simp)
    | cons b args =>
      have hrest := ih fun c hc => h c (by simp [hc])
      have hcomma := lexes_cons (Token.scan?_sign (s := ",") (by decide))
        (fun rest _ => Token.sign_ends (by decide) _) (lexes_blank hrest)
      have hall := lexes_append (h a (by simp)) (fun rest _ => stops_cons (by decide) _) hcomma
      simpa [commas, List.intercalate] using hall

/-- A word or a member before the arguments of a call. -/
theorem lexes_callee {p : Prop} {s : String} (hs : Token.isName s = true) {c : Char}
    (hc : c = '(' ∨ c = '.') {cs : List Char} {ts : List Token} (h : Lexes p (c :: cs) ts) :
    Lexes p (s.toList ++ c :: cs) (.word s :: ts) := by
  refine lexes_cons (Token.scan?_word hs) (fun rest _ => ?_) h
  have hpart : isWordPart c = false := by
    rcases hc with rfl | rfl <;> decide
  exact Token.ends_cons (by simp [Token.extend?, hpart]) rfl

theorem lexes_math {p : Prop} {m : String} (hm : Token.isName m = true) {cs : List Char}
    {ts : List Token} (h : Lexes p ('(' :: cs) ts) :
    Lexes p ((mathText m).toList ++ '(' :: cs) (mathTokens m ++ ts) := by
  have hmember := lexes_callee hm (.inl rfl) h
  have hdot := lexes_cons (Token.scan?_sign (s := ".") (by decide))
    (fun rest _ => Token.sign_ends (by decide) _) hmember
  have hname : Token.isName "Math" = true := by decide
  simpa [mathText, mathTokens] using lexes_callee hname (.inr rfl) hdot

theorem toList_callText (f : String) (args : List String) : (callText f args).toList =
    f.toList ++ '(' :: (List.intercalate [',', ' '] (args.map String.toList) ++ [')']) := by
  simp [callText]

theorem lexes_between {p q : Prop} {a b : String} {ts us : List Token} (h1 : Lexes p a.toList ts)
    (op : BinaryOp) (h2 : Lexes q b.toList us) :
    Lexes (p ∧ q) (infixText a op b).toList (infixTokens ts op us) := by
  have h := lexes_spaced h1 op.sign_mem h2
  simpa [infixText, infixTokens] using h

theorem lexes_args {α : Type} {args : List α} {p : α → Prop} {f : α → String}
    {g : α → List Token} (h : ∀ a ∈ args, Lexes (p a) (f a).toList (g a)) :
    Lexes (∀ a ∈ args, p a)
      ('(' :: (List.intercalate [',', ' '] ((args.map f).map String.toList) ++ [')']))
      (.sign "(" :: (commas (args.map g) ++ [.sign ")"])) := by
  rw [List.map_map]
  exact lexes_paren (lexes_commas h)

/-- The text of a term gives its tokens if it is clean; otherwise an update is among them. -/
theorem lexes_text (t : Term) (inner : Bool) :
    Lexes (t.isClean inner = true) (t.text inner).toList (t.tokens inner) := by
  induction t using Term.induction generalizing inner with
  | name n => exact (lexes_word n.isName).congr (by simp [Term.isClean])
  | number n => exact (lexes_number n).congr (by simp [Term.isClean])
  | call f args ih =>
    have hcall := lexes_callee f.isName (.inl rfl) (lexes_args fun a ha => ih a ha inner)
    rw [Term.text, Term.tokens, toList_callText, Term.textAll_eq, Term.tokensAll_eq]
    exact hcall.congr Term.allClean_iff.symm
  | unary s x ih =>
    obtain ⟨c, cs, hcs, hopens, hlead⟩ := begins_text x inner
    have hx := ih inner
    rw [hcs] at hx
    rw [Term.text, Term.tokens, String.toList_append, hcs]
    have hs : s.op.sign ∈ ["-", "+", "!", "~"] := by cases s <;> decide
    have hdoubles : s.op.sign ∈ ["-", "+"] ↔ s.doubles = true := by cases s <;> decide
    refine (lexes_unary hs hopens hx).congr ?_
    rw [hdoubles, hlead s]
    simp [Term.isClean, imp_iff_not_or]
  | power l r ihl ihr =>
    have hargs : ∀ a ∈ [l, r], Lexes (a.isClean true = true) (a.text true).toList (a.tokens true) := by
      simpa using ⟨ihl true, ihr true⟩
    have hm : Token.isName "pow" = true := by decide
    have hcall := lexes_math hm (lexes_args hargs)
    rw [Term.text, Term.tokens, toList_callText]
    exact hcall.congr (by simp [Term.isClean])
  | floorDiv l r ihl ihr =>
    have hinfix := lexes_between (ihl true) .div (ihr true)
    have hargs : ∀ _ ∈ [()], Lexes (l.isClean true = true ∧ r.isClean true = true)
        (infixText (l.text true) .div (r.text true)).toList
        (infixTokens (l.tokens true) .div (r.tokens true)) := fun _ _ => hinfix
    have hm : Token.isName "floor" = true := by decide
    have hcall := lexes_math hm (lexes_args hargs)
    rw [Term.text, Term.tokens, toList_callText]
    exact hcall.congr (by simp [Term.isClean])
  | binary op l r ihl ihr =>
    have hboth := lexes_between (ihl (opens op || inner)) op (ihr (opens op || inner))
    have hinfix := hboth.congr (q := (Term.binary op l r).isClean inner = true) (by simp [Term.isClean])
    simp only [Term.text, Term.tokens, parens, groupTokens]
    split_ifs
    · have hparen := lexes_paren hinfix
      simpa using hparen
    · exact hinfix

end Transpile.Grouping
