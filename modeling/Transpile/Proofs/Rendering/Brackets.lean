import Transpile.Atom
import Mathlib.Data.List.Basic
import Mathlib.Tactic.Common

/-! Brackets in texts. A text is read with the closing brackets that are owed, the next one first: an
opening bracket adds the one that closes it, and a closing bracket has to be the next one owed. -/

namespace Transpile.Text

/-- The bracket that closes what the character opens. -/
def closing? : Char → Option Char
  | '(' => some ')'
  | '[' => some ']'
  | '\x7b' => some '\x7d'
  | _ => none

def isClosing (c : Char) : Bool := c = ')' || c = ']' || c = '\x7d'

def isBracket (c : Char) : Bool := (closing? c).isSome || isClosing c

/-- What is owed after one character more. -/
def bracketStep (owed : List Char) (c : Char) : Option (List Char) :=
  match closing? c with
  | some d => some (d :: owed)
  | none =>
    if isClosing c then
      if owed.head? = some c then some owed.tail else none
    else some owed

/-- With `a` owed, the brackets of the text leave `b` owed. -/
def Reads (a : List Char) (s : String) (b : List Char) : Prop :=
  s.toList.foldlM bracketStep a = some b

/-- Every bracket that is opened is closed by its own, in order, and no other is closed. -/
def Nested (s : String) : Prop := Reads [] s []

instance (a : List Char) (s : String) (b : List Char) : Decidable (Reads a s b) :=
  inferInstanceAs (Decidable (_ = _))

instance (s : String) : Decidable (Nested s) := inferInstanceAs (Decidable (Reads _ _ _))

example : Nested "f(a[0], \x7b b: (1) \x7d)" ∧ ¬ Nested "f(a[0)]" ∧ ¬ Nested ")(" := by decide

theorem Reads.append {a b c : List Char} {s t : String} (hs : Reads a s b) (ht : Reads b t c) :
    Reads a (s ++ t) c := by
  simp only [Reads] at *
  rw [String.toList_append, List.foldlM_append, hs]
  exact ht

/-- What is owed further out stays owed. -/
theorem bracketStep_append {a b : List Char} {c : Char} (h : bracketStep a c = some b)
    (more : List Char) : bracketStep (a ++ more) c = some (b ++ more) := by
  unfold bracketStep at *
  cases hopen : closing? c with
  | some d =>
    rw [hopen] at h
    cases h
    rfl
  | none =>
    rw [hopen] at h
    cases hclose : isClosing c with
    | false =>
      simp only [hclose, Bool.false_eq_true, if_false, Option.some.injEq] at h ⊢
      rw [h]
    | true =>
      -- the bracket is the next one owed, so something is owed
      simp only [hclose, if_true] at h ⊢
      split_ifs at h with hhead
      cases h
      cases a with
      | nil => cases hhead
      | cons d a =>
        rw [List.head?_cons] at hhead
        rw [List.cons_append, List.head?_cons, if_pos hhead]
        rfl

theorem Reads.more {a b : List Char} {s : String} (h : Reads a s b) (more : List Char) :
    Reads (a ++ more) s (b ++ more) := by
  simp only [Reads] at *
  generalize s.toList = cs at h
  induction cs generalizing a with
  | nil =>
    cases h
    rfl
  | cons c cs ih =>
    rw [List.foldlM_cons] at h ⊢
    obtain ⟨a', hstep, h⟩ := Option.bind_eq_some_iff.1 h
    exact Option.bind_eq_some_iff.2 ⟨_, bracketStep_append hstep more, ih h⟩

/-- A nested text can stand wherever brackets are owed. -/
theorem Nested.reads {s : String} (h : Nested s) (a : List Char) : Reads a s a := by
  simpa using Reads.more h a

theorem bracketStep_of_other {c : Char} (h : isBracket c = false) (a : List Char) :
    bracketStep a c = some a := by
  obtain ⟨hopen, hclose⟩ := Bool.or_eq_false_iff.1 h
  have hnone : closing? c = none := by simpa using hopen
  unfold bracketStep
  rw [hnone]
  simp [hclose]

/-- Only brackets count. -/
theorem foldlM_filter_isBracket (cs : List Char) (a : List Char) :
    (cs.filter isBracket).foldlM bracketStep a = cs.foldlM bracketStep a := by
  induction cs generalizing a with
  | nil => rfl
  | cons c cs ih =>
    cases hc : isBracket c with
    | true =>
      rw [List.filter_cons_of_pos hc, List.foldlM_cons, List.foldlM_cons]
      simp only [ih]
    | false =>
      rw [List.filter_cons_of_neg (by simp [hc]), List.foldlM_cons, bracketStep_of_other hc]
      exact ih a

theorem reads_congr {s t : String} (h : s.toList.filter isBracket = t.toList.filter isBracket)
    {a b : List Char} (hs : Reads a s b) : Reads a t b := by
  unfold Reads at *
  rw [← foldlM_filter_isBracket] at *
  rwa [← h]

theorem nested_of_any {s : String} (h : s.toList.any isBracket = false) : Nested s := by
  have hnone : s.toList.filter isBracket = [] := by simpa using h
  exact reads_congr (s := "") (by rw [hnone]; rfl) rfl

/-! Brackets among other characters -/

def brackets : List Char := ['(', ')', '[', ']', '\x7b', '\x7d']

theorem mem_brackets {c : Char} (h : isBracket c = true) : c ∈ brackets := by
  unfold isBracket closing? isClosing at h
  unfold brackets
  split at h <;> simp_all
  tauto

theorem of_isBracket {P : Char → Bool} (hall : brackets.all P = true) {c : Char}
    (h : isBracket c = true) : P c = true :=
  List.all_eq_true.1 hall c (mem_brackets h)

theorem isPrintable_of_isBracket {c : Char} (h : isBracket c = true) : isPrintable c = true :=
  of_isBracket (by decide) h

theorem isBracket_of_le {c : Char} (h : mark.toNat ≤ c.toNat) : isBracket c = false := by
  by_contra hc
  have hlt := of_isBracket (P := fun d => d.toNat < mark.toNat) (by decide) (by simpa using hc)
  rw [decide_eq_true_eq] at hlt
  omega

theorem isBracket_of_isAlpha {c : Char} (h : c.isAlpha = true) : isBracket c = false := by
  by_contra hc
  have hother := of_isBracket (P := fun d => !d.isAlpha) (by decide) (by simpa using hc)
  simp [h] at hother

/-! Quoted text -/

theorem isBracket_hexDigit : ∀ n < 16, isBracket (hexDigit n) = false := by decide

theorem filter_hexFixed (width n : Nat) : (hexFixed width n).filter isBracket = [] := by
  induction width generalizing n with
  | zero => rfl
  | succ width ih =>
    have hdigit := isBracket_hexDigit (n % 16) (Nat.mod_lt n (by decide))
    simp [hexFixed, ih, hdigit]

theorem filter_escapeCode (n : Nat) : (escapeCode n).filter isBracket = [] := by
  have hslash : isBracket '\\' = false := by decide
  have hcode {c : Char} (hc : c.isAlpha = true) (width : Nat) :
      ('\\' :: c :: hexFixed width n).filter isBracket = [] := by
    simp [hslash, isBracket_of_isAlpha hc, filter_hexFixed]
  unfold escapeCode
  split_ifs
  · exact hcode (by decide) 2
  · exact hcode (by decide) 4
  · exact hcode (by decide) 8

/-- An escape shows a bracket as it is, and brings in none. -/
theorem filter_escapeChar (quote c : Char) :
    (escapeChar quote c).filter isBracket = [c].filter isBracket := by
  have hslash : isBracket '\\' = false := by decide
  unfold escapeChar
  split_ifs with hself htab hbreak hreturn hprint
  · rw [List.filter_cons_of_neg (by simp [hslash])]
  · subst htab
    decide
  · subst hbreak
    decide
  · subst hreturn
    decide
  · rfl
  · rw [filter_escapeCode, List.filter_cons_of_neg, List.filter_nil]
    intro hc
    exact hprint (isPrintable_of_isBracket hc)

theorem filter_escapePoint (quote c : Char) :
    (escapePoint quote c.toNat).filter isBracket = [c].filter isBracket := by
  unfold escapePoint
  split_ifs with hhalf
  · simp only [isHalf, Bool.and_eq_true, decide_eq_true_eq] at hhalf
    have hmark : mark.toNat ≤ c.toNat := Nat.le_trans (by decide) hhalf.1
    rw [filter_escapeCode, List.filter_cons_of_neg (by simp [isBracket_of_le hmark]), List.filter_nil]
  · rw [Char.ofNat_toNat]
    exact filter_escapeChar quote c

/-- A character after the mark is no bracket, and neither is the mark. -/
theorem filter_marked {quote d : Char} (hd : isMarked d = true) :
    (escapePoint quote (point [mark, d])).filter isBracket = [mark, d].filter isBracket := by
  have hmark : isBracket mark = false := isBracket_of_le (Nat.le_refl _)
  by_cases hself : d = mark
  · subst hself
    simp only [point, if_true, filter_escapePoint]
    simp [hmark]
  · simp only [isMarked, hself, decide_false, Bool.false_or, Bool.and_eq_true,
      decide_eq_true_eq] at hd
    have hother : isBracket d = false := isBracket_of_le (Nat.le_trans (by decide) hd.1)
    have hhalf : isHalf (firstHalf + (d.toNat - firstPrivate)) = true := by
      simp only [isHalf, Bool.and_eq_true, decide_eq_true_eq]
      omega
    simp [point, hself, escapePoint, hhalf, filter_escapeCode, hmark, hother]

theorem filter_escapePoints (quote : Char) (cs : List Char) :
    ((points cs).flatMap (escapePoint quote)).filter isBracket = cs.filter isBracket := by
  unfold points
  induction cs using characters.induct with
  | case1 => rfl
  | case2 c => simpa [characters, point] using filter_escapePoint quote c
  | case3 c d cs h ih =>
    obtain ⟨hc, hd⟩ := Bool.and_eq_true_iff.1 h
    rw [decide_eq_true_eq] at hc
    subst hc
    rw [characters, if_pos h, List.map_cons, List.flatMap_cons, List.filter_append, filter_marked hd,
      ih, ← List.filter_append]
    rfl
  | case4 c d cs h ih =>
    rw [characters, if_neg h, List.map_cons, List.flatMap_cons, List.filter_append, ih]
    have hfirst : (escapePoint quote (point [c])).filter isBracket = [c].filter isBracket :=
      filter_escapePoint quote c
    rw [hfirst, ← List.filter_append]
    rfl

/-- The brackets of a quoted text are those of the text. -/
theorem filter_quoted (s : String) :
    (quoted s).toList.filter isBracket = s.toList.filter isBracket := by
  have hquote : isBracket (quoteFor s.toList) = false := by
    unfold quoteFor
    split_ifs <;> decide
  simp [quoted, hquote, filter_escapePoints]

theorem Nested.quoted {s : String} (h : Nested s) : Nested (quoted s) :=
  reads_congr (filter_quoted s).symm h

end Transpile.Text
