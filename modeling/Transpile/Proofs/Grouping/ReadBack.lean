import Transpile.Proofs.Grouping.Text
import Transpile.Proofs.Reading.Reader
import Transpile.Proofs.Reading.Splitting

/-! Reading the text of a term back. The tokens of a term are derived at a level exactly when every
operator in it binds as tightly as its place asks for or stands in parentheses. Main statements: the
statement that is written for a term of arithmetic and logic reads back as what the term means, and
that for any other term does so exactly when its operators fit and no two signs run together. -/

namespace Transpile.Grouping

open Source (Tree)
open Script Walk Reading

namespace Term

mutual

/-- Every operator binds as tightly as the level of its place, or is in parentheses. -/
def fits : Bool → Nat → Term → Bool
  | _, _, .name _ => true
  | _, _, .number _ => true
  | inner, _, .call _ args => fitsAll inner args
  | inner, n, .unary _ x => n ≤ UnaryOp.level && x.fits inner UnaryOp.level
  | _, _, .power l r => l.fits true 0 && r.fits true 0
  | _, _, .floorDiv l r => l.fits true BinaryOp.div.level && r.fits true (BinaryOp.div.level + 1)
  | inner, n, .binary op l r => (wraps op && inner || n ≤ op.level) &&
      (l.fits (opens op || inner) op.level && r.fits (opens op || inner) (op.level + 1))

def fitsAll : Bool → List Term → Bool
  | _, [] => true
  | inner, t :: ts => t.fits inner 0 && fitsAll inner ts

end

theorem fitsAll_iff {inner : Bool} {ts : List Term} :
    fitsAll inner ts = true ↔ ∀ t ∈ ts, t.fits inner 0 = true := by
  induction ts with
  | nil => simp [fitsAll]
  | cons t ts ih => simp [fitsAll, ih]

end Term

/-! Tokens -/

theorem callee_name (f : Name) : Callee [.word f.text] (.name f.text) := .name f.free

theorem callee_math (m : String) : Callee (mathTokens m) (math m) := .member (by decide)

theorem weight_call {ts : List Token} {f : Expr} (hf : Callee ts f) {α : Type} (args : List α)
    {g : α → List Token} {x : α → Expr} (h : ∀ a ∈ args, weight (g a) = (x a).size) :
    weight (callTokens ts (args.map g)) = (Expr.call f (args.map x)).size := by
  have hargs : ∀ b ∈ args.map fun a => (g a, x a), weight b.1 = b.2.size := by
    intro b hb
    obtain ⟨a, ha, rfl⟩ := List.mem_map.1 hb
    exact h a ha
  have hcommas := weight_commas hargs
  simp only [List.map_map, Function.comp_def] at hcommas
  rw [callTokens, weight_append, hf.weight, weight_group, hcommas]
  simp [Expr.size]

theorem weight_between {ts us : List Token} (op : BinaryOp) {l r : Expr} (hl : weight ts = l.size)
    (hr : weight us = r.size) : weight (infixTokens ts op us) = (Expr.binary op l r).size := by
  rw [infixTokens, weight_append, weight_cons op.sign_not_paren, hl, hr]
  simp only [Expr.size]
  omega

theorem weight_groupTokens (inner : Bool) (ts : List Token) :
    weight (groupTokens inner ts) = weight ts := by
  cases inner with
  | false => rfl
  | true => exact weight_group ts

/-- The tokens that are no parentheses are those of the script expression. -/
theorem weight_tokens (t : Term) (inner : Bool) : weight (t.tokens inner) = t.script.size := by
  induction t using Term.induction generalizing inner with
  | name n => rfl
  | number n => rfl
  | call f args ih =>
    rw [Term.tokens, Term.tokensAll_eq, Term.script, Term.scriptAll_eq]
    exact weight_call (callee_name f) args fun a ha => ih a ha inner
  | unary s x ih =>
    rw [Term.tokens, weight_cons s.op.sign_not_paren, ih, Term.script, Expr.size]
  | power l r ihl ihr =>
    have hargs : ∀ a ∈ [l, r], weight (a.tokens true) = a.script.size := by
      simpa using ⟨ihl true, ihr true⟩
    exact weight_call (callee_math "pow") [l, r] hargs
  | floorDiv l r ihl ihr =>
    have hdiv := weight_between .div (ihl true) (ihr true)
    exact weight_call (callee_math "floor") [()] fun _ _ => hdiv
  | binary op l r ihl ihr =>
    rw [Term.tokens, weight_groupTokens]
    exact weight_between op (ihl _) (ihr _)

theorem balanced_call {ts : List Token} {f : Expr} (hf : Callee ts f) {args : List (List Token)}
    (h : ∀ us ∈ args, Balanced us) : Balanced (callTokens ts args) :=
  hf.balanced.append (balanced_commas h).group

theorem balanced_between {ts us : List Token} (op : BinaryOp) (h1 : Balanced ts) (h2 : Balanced us) :
    Balanced (infixTokens ts op us) :=
  h1.append (h2.cons op.sign_not_paren)

theorem balanced_tokens (t : Term) (inner : Bool) : Balanced (t.tokens inner) := by
  induction t using Term.induction generalizing inner with
  | name n => exact balanced_nil.cons rfl
  | number n => exact balanced_nil.cons rfl
  | call f args ih =>
    rw [Term.tokens, Term.tokensAll_eq]
    refine balanced_call (callee_name f) fun us hus => ?_
    obtain ⟨a, ha, rfl⟩ := List.mem_map.1 hus
    exact ih a ha inner
  | unary s x ih => exact (ih inner).cons s.op.sign_not_paren
  | power l r ihl ihr =>
    exact balanced_call (callee_math "pow") (by simpa using ⟨ihl true, ihr true⟩)
  | floorDiv l r ihl ihr =>
    have hdiv := balanced_between .div (ihl true) (ihr true)
    exact balanced_call (callee_math "floor") (by simpa using hdiv)
  | binary op l r ihl ihr =>
    have hop := balanced_between op (ihl (opens op || inner)) (ihr (opens op || inner))
    rw [Term.tokens, groupTokens]
    split_ifs
    · exact hop.group
    · exact hop

/-! Derivations -/

theorem derives_call_iff {ts : List Token} {f : Expr} (hf : Callee ts f) {n : Nat}
    (hn : n ≤ primaryLevel) {α : Type} (args : List α) {g : α → List Token} {x : α → Expr}
    (hw : ∀ a ∈ args, weight (g a) = (x a).size) :
    Derives n (callTokens ts (args.map g)) (.call f (args.map x)) ↔
      ∀ a ∈ args, Derives 0 (g a) (x a) := by
  have hfst : args.map g = (args.map fun a => (g a, x a)).map Prod.fst := by simp
  have hsnd : args.map x = (args.map fun a => (g a, x a)).map Prod.snd := by simp
  rw [callTokens, hfst, hsnd]
  constructor
  · intro h a ha
    exact derives_call_inv hf (by simpa using hw) h (g a, x a) (List.mem_map_of_mem ha)
  · intro h
    exact .call hn hf.derives (by simpa using h)

theorem derives_unary_iff {n : Nat} {ts : List Token} {u : UnaryOp} {x : Expr} :
    Derives n (.sign u.sign :: ts) (.unary u x) ↔
      n ≤ UnaryOp.level ∧ Derives UnaryOp.level ts x :=
  ⟨derives_unary_inv, fun h => .unary h.1 h.2⟩

theorem derives_between_iff {n : Nat} {ts us : List Token} {op : BinaryOp} {l r : Expr}
    (hb : Balanced ts) (hw : weight ts = l.size) :
    Derives n (infixTokens ts op us) (.binary op l r) ↔
      n ≤ op.level ∧ Derives op.level ts l ∧ Derives (op.level + 1) us r :=
  ⟨fun h => derives_binary_inv h hb hw, fun h => .binary h.1 h.2.1 h.2.2⟩

/-- In parentheses the level of the place does not matter. -/
theorem derives_group_iff {n : Nat} {ts us : List Token} {op : BinaryOp} {l r : Expr}
    (inner : Bool) (hb : Balanced (infixTokens ts op us)) :
    Derives n (groupTokens inner (infixTokens ts op us)) (.binary op l r) ↔
      Derives (if inner then 0 else n) (infixTokens ts op us) (.binary op l r) := by
  cases inner with
  | false => exact Iff.rfl
  | true => exact ⟨fun h => derives_group_inv h hb, .group⟩

/-- The tokens of a term are derived as its script expression exactly when its operators fit. -/
theorem derives_tokens_iff (t : Term) (inner : Bool) {n : Nat} (hn : n ≤ primaryLevel) :
    Derives n (t.tokens inner) t.script ↔ t.fits inner n = true := by
  induction t using Term.induction generalizing inner n with
  | name a => exact ⟨fun _ => rfl, fun _ => .name a.free⟩
  | number a => exact ⟨fun _ => rfl, fun _ => .number⟩
  | call f args ih =>
    rw [Term.tokens, Term.tokensAll_eq, Term.script, Term.scriptAll_eq, Term.fits, Term.fitsAll_iff,
      derives_call_iff (callee_name f) hn args fun a _ => weight_tokens a inner]
    exact forall₂_congr fun a ha => ih a ha inner (Nat.zero_le _)
  | unary s x ih =>
    rw [Term.tokens, Term.script, Term.fits, derives_unary_iff, ih inner (by decide)]
    simp
  | power l r ihl ihr =>
    refine (derives_call_iff (callee_math "pow") hn [l, r] fun a _ => weight_tokens a true).trans ?_
    simp [Term.fits, ihl true (Nat.zero_le primaryLevel), ihr true (Nat.zero_le primaryLevel)]
  | floorDiv l r ihl ihr =>
    have hdiv := weight_between .div (weight_tokens l true) (weight_tokens r true)
    refine (derives_call_iff (callee_math "floor") hn [()] fun _ _ => hdiv).trans ?_
    rw [List.forall_mem_singleton, derives_between_iff (balanced_tokens l true) (weight_tokens l true),
      ihl true (by decide), ihr true (by decide)]
    simp [Term.fits]
  | binary op l r ihl ihr =>
    have hlevel : op.level + 1 ≤ primaryLevel :=
      Nat.le_trans (Nat.succ_le_succ op.level_le) (by decide)
    rw [Term.tokens, Term.script, derives_group_iff _ (balanced_between op (balanced_tokens l _)
      (balanced_tokens r _)), derives_between_iff (balanced_tokens l _) (weight_tokens l _),
      ihl _ (Nat.le_of_succ_le hlevel), ihr _ hlevel, Term.fits]
    cases wraps op && inner <;> simp

/-! Statements -/

theorem isPlain_script (t : Term) : t.script.isPlain = true := by
  induction t using Term.induction with
  | name n => rfl
  | number n => rfl
  | call f args ih =>
    have hargs : Expr.allPlain (args.map Term.script) = true :=
      Expr.allPlain_iff.2 (List.forall_mem_map.2 ih)
    simp [Term.script, Term.scriptAll_eq, Expr.isPlain, hargs]
  | unary s x ih => cases s <;> simp [Term.script, Sign.op, Expr.isPlain, ih]
  | power l r ihl ihr => simp [Term.script, math, Expr.isPlain, Expr.allPlain, ihl, ihr]
  | floorDiv l r ihl ihr => simp [Term.script, math, Expr.isPlain, Expr.allPlain, ihl, ihr]
  | binary op l r ihl ihr => simp [Term.script, Expr.isPlain, ihl, ihr]

/-- The statement reads back as what the term means exactly when its operators fit and no two of its
signs run together. -/
theorem readStatement_text_iff (t : Term) :
    readStatement (t.text false ++ ";") = some t.script ↔
      t.fits false 0 = true ∧ t.isClean false = true := by
  obtain ⟨hclean, hspoils⟩ := lexes_text t false [';'] (stops_cons (by decide) [])
  have hlex : lex (t.text false ++ ";") = lexFrom none ((t.text false).toList ++ [';']) := by
    simp [lex]
  unfold readStatement
  rw [hlex]
  by_cases hc : t.isClean false = true
  · have htokens : lexFrom none ((t.text false).toList ++ [';']) =
        some (t.tokens false ++ [.sign ";"]) := hclean hc
    rw [htokens, ← derives_tokens_iff t false (Nat.zero_le _), ← read_iff]
    simp [hc]
  · -- An update among the tokens cannot be part of what the term means.
    refine iff_of_false (fun h => ?_) fun h => hc h.2
    obtain ⟨ts, hts, h⟩ := Option.bind_eq_some_iff.1 h
    split_ifs at h with hlast
    have hupdates := hspoils hc ts hts
    have hend : ts.dropLast ++ [.sign ";"] = ts := List.dropLast_append_getLast? _ hlast
    rw [← hend] at hupdates
    rcases updates_append hupdates with hu | hu
    · exact not_updates_of_derives (derives_of_read h) (isPlain_script t) hu
    · revert hu
      simp [Updates]

/-- The expression statement of the term. -/
def Term.statement (ctx : Tree) (t : Term) : Tree := .node .exprStmt [t.tree ctx]

theorem renders_statement {o : Options} (ho : o.camelCase = false) {ctx : Tree} (hctx : IsUse ctx)
    {s : State} (hs : Ready s) (hops : s.operators.isEmpty = true) (t : Term) :
    ∃ p s', run (visit (t.statement ctx)) o s = (.ok p, s') ∧
      ∀ width level, p.renderAt width level = (.ok (.text (t.text false ++ ";")), level) := by
  have hterm := walks_term stable_true ho hctx t s.operators
  rw [hops] at hterm
  obtain ⟨p, s', hr, -, x, hx, rfl⟩ := gives_exprStmt stable_true (isNode_tree ctx t)
    (fun _ hp => hp.1) hterm s ⟨hs, trivial, rfl⟩
  exact ⟨_, s', hr, fun width level => prints_statement (hx.2 _ level)⟩

/-- For terms of all operators: the text reads back as what the term means under the two conditions
and not otherwise. Comparisons and bit operators are never put in parentheses, nor are operands of
signs, so there are terms that do not meet the first. -/
theorem statement_reads_back_iff {o : Options} (ho : o.camelCase = false) {ctx : Tree}
    (hctx : IsUse ctx) {s : State} (hs : Ready s) (hops : s.operators.isEmpty = true) (t : Term) :
    ∃ p s' text, run (visit (t.statement ctx)) o s = (.ok p, s') ∧
      (∀ width level, p.renderAt width level = (.ok (.text text), level)) ∧
      (readStatement text = some t.script ↔ t.fits false 0 = true ∧ t.isClean false = true) := by
  obtain ⟨p, s', hr, hp⟩ := renders_statement ho hctx hs hops t
  exact ⟨p, s', _, hr, hp, readStatement_text_iff t⟩

def nameA : Name := ⟨"a", by decide, by decide, by decide⟩

def nameB : Name := ⟨"b", by decide, by decide, by decide⟩

/-- `not (a == b)` -/
def notSame : Term := .unary .not (.binary .same (.name nameA) (.name nameB))

theorem notSame_not_read_back : Ready {} ∧ ({} : State).operators.isEmpty = true ∧
    ∃ p s' text, run (visit (notSame.statement (.node (.use .load) []))) {} {} = (.ok p, s') ∧
      (∀ width level, p.renderAt width level = (.ok (.text text), level)) ∧
      readStatement text ≠ some notSame.script := by
  have hs : Ready {} := ⟨by decide, fun _ _ => rfl⟩
  obtain ⟨p, s', text, hr, hp, hiff⟩ := statement_reads_back_iff (o := {}) rfl (.use .load) hs
    rfl notSame
  refine ⟨hs, rfl, p, s', text, hr, hp, fun h => ?_⟩
  have hfits := (hiff.1 h).1
  revert hfits
  decide

/-! Arithmetic and logic -/

namespace Term

mutual

/-- No signs, and no operators but those of arithmetic and logic. -/
def isArithmetic : Term → Bool
  | .name _ => true
  | .number _ => true
  | .call _ args => allArithmetic args
  | .unary _ _ => false
  | .power l r => l.isArithmetic && r.isArithmetic
  | .floorDiv l r => l.isArithmetic && r.isArithmetic
  | .binary op l r => wraps op && (l.isArithmetic && r.isArithmetic)

def allArithmetic : List Term → Bool
  | [] => true
  | t :: ts => t.isArithmetic && allArithmetic ts

end

theorem allArithmetic_iff {ts : List Term} :
    allArithmetic ts = true ↔ ∀ t ∈ ts, t.isArithmetic = true := by
  induction ts with
  | nil => simp [allArithmetic]
  | cons t ts ih => simp [allArithmetic, ih]

/-- Inside operands every operator is in parentheses; outside the level is the lowest. -/
theorem fits_of_isArithmetic {t : Term} (ht : t.isArithmetic = true) {inner : Bool} {n : Nat}
    (h : inner = true ∨ n = 0) : t.fits inner n = true := by
  induction t using Term.induction generalizing inner n with
  | name a => rfl
  | number a => rfl
  | call f args ih =>
    exact fitsAll_iff.2 fun a ha => ih a ha (allArithmetic_iff.1 ht a ha) (.inr rfl)
  | unary s x ih => cases ht
  | power l r ihl ihr =>
    obtain ⟨hl, hr⟩ := Bool.and_eq_true_iff.1 ht
    exact Bool.and_eq_true_iff.2 ⟨ihl hl (.inl rfl), ihr hr (.inl rfl)⟩
  | floorDiv l r ihl ihr =>
    obtain ⟨hl, hr⟩ := Bool.and_eq_true_iff.1 ht
    exact Bool.and_eq_true_iff.2 ⟨ihl hl (.inl rfl), ihr hr (.inl rfl)⟩
  | binary op l r ihl ihr =>
    simp only [isArithmetic, Bool.and_eq_true] at ht
    obtain ⟨hop, hl, hr⟩ := ht
    have hopens : opens op = true := by
      cases op <;> first | rfl | simp [wraps, family] at hop
    rw [fits, hop, hopens, Bool.true_or, ihl hl (.inl rfl), ihr hr (.inl rfl)]
    rcases h with rfl | rfl <;> simp

theorem isClean_of_isArithmetic {t : Term} (ht : t.isArithmetic = true) (inner : Bool) :
    t.isClean inner = true := by
  induction t using Term.induction generalizing inner with
  | name a => rfl
  | number a => rfl
  | call f args ih => exact allClean_iff.2 fun a ha => ih a ha (allArithmetic_iff.1 ht a ha) inner
  | unary s x ih => cases ht
  | power l r ihl ihr =>
    obtain ⟨hl, hr⟩ := Bool.and_eq_true_iff.1 ht
    exact Bool.and_eq_true_iff.2 ⟨ihl hl true, ihr hr true⟩
  | floorDiv l r ihl ihr =>
    obtain ⟨hl, hr⟩ := Bool.and_eq_true_iff.1 ht
    exact Bool.and_eq_true_iff.2 ⟨ihl hl true, ihr hr true⟩
  | binary op l r ihl ihr =>
    obtain ⟨-, hlr⟩ := Bool.and_eq_true_iff.1 ht
    obtain ⟨hl, hr⟩ := Bool.and_eq_true_iff.1 hlr
    exact Bool.and_eq_true_iff.2 ⟨ihl hl _, ihr hr _⟩

end Term

/-- The statement of a term of arithmetic and logic reads back as what the term means. -/
theorem arithmetic_reads_back {o : Options} (ho : o.camelCase = false) {ctx : Tree}
    (hctx : IsUse ctx) {s : State} (hs : Ready s) (hops : s.operators.isEmpty = true) {t : Term}
    (ht : t.isArithmetic = true) :
    ∃ p s' text, run (visit (t.statement ctx)) o s = (.ok p, s') ∧
      (∀ width level, p.renderAt width level = (.ok (.text text), level)) ∧
      readStatement text = some t.script := by
  obtain ⟨p, s', hr, hp⟩ := renders_statement ho hctx hs hops t
  have hfits := Term.fits_of_isArithmetic ht (.inr rfl : false = true ∨ 0 = 0)
  have hclean := Term.isClean_of_isArithmetic ht false
  exact ⟨p, s', _, hr, hp, (readStatement_text_iff t).2 ⟨hfits, hclean⟩⟩

/-- `(a - 1) * a(b // (a + b)) ** 2 or b` -/
def nestedSum : Term :=
  .binary .or
    (.binary .mult (.binary .sub (.name nameA) (.number 1))
      (.power (.call nameA [.floorDiv (.name nameB) (.binary .add (.name nameA) (.name nameB))])
        (.number 2)))
    (.name nameB)

theorem nestedSum_reads_back : Ready {} ∧ nestedSum.isArithmetic = true ∧
    ∃ p s' text, run (visit (nestedSum.statement (.node (.use .load) []))) {} {} = (.ok p, s') ∧
      (∀ width level, p.renderAt width level = (.ok (.text text), level)) ∧
      readStatement text = some nestedSum.script := by
  have hs : Ready {} := ⟨by decide, fun _ _ => rfl⟩
  have ht : nestedSum.isArithmetic = true := by decide
  exact ⟨hs, ht, arithmetic_reads_back rfl (.use .load) hs rfl ht⟩

end Transpile.Grouping
