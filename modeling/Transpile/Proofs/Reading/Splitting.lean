import Transpile.Proofs.Reading.Grammar

/-! Where a derivation splits its tokens. Parentheses are balanced in it, and the number of its other
tokens is fixed by the expression; so an operator that stands outside all parentheses, between
operands of the right size, is the one that the derivation splits at. -/

namespace Transpile.Reading

/-! The number of tokens -/

def Token.isParen (t : Token) : Bool := t = .sign "(" || t = .sign ")"

/-- The number of tokens that are no parentheses. -/
def weight (ts : List Token) : Nat := ts.countP fun t => !t.isParen

mutual

/-- The number of words, numbers, operators, dots and commas in an expression. -/
def Expr.size : Expr → Nat
  | .name _ => 1
  | .number _ => 1
  | .member x _ => x.size + 2
  | .call f args => f.size + sizeAll args
  | .unary _ x => x.size + 1
  | .binary _ l r => l.size + 1 + r.size

def Expr.sizeAll : List Expr → Nat
  | [] => 0
  | [x] => x.size
  | x :: y :: xs => x.size + 1 + sizeAll (y :: xs)

end

@[simp] theorem weight_nil : weight [] = 0 := rfl

@[simp] theorem weight_append (ts us : List Token) : weight (ts ++ us) = weight ts + weight us :=
  List.countP_append

theorem weight_cons {t : Token} (h : t.isParen = false) (ts : List Token) :
    weight (t :: ts) = weight ts + 1 := List.countP_cons_of_pos (by simp [h])

theorem weight_cons_paren {t : Token} (h : t.isParen = true) (ts : List Token) :
    weight (t :: ts) = weight ts := List.countP_cons_of_neg (by simp [h])

theorem UnaryOp.sign_not_paren (u : UnaryOp) : (Token.sign u.sign).isParen = false := by
  cases u <;> decide

theorem BinaryOp.sign_not_paren (o : BinaryOp) : (Token.sign o.sign).isParen = false := by
  cases o <;> decide

theorem weight_commas {args : List (List Token × Expr)} (h : ∀ a ∈ args, weight a.1 = a.2.size) :
    weight (commas (args.map Prod.fst)) = Expr.sizeAll (args.map Prod.snd) := by
  induction args with
  | nil => rfl
  | cons a args ih =>
    have ha := h a (by simp)
    cases args with
    | nil => simpa [commas, Expr.sizeAll] using ha
    | cons b args =>
      have ih := ih fun c hc => h c (by simp [hc])
      simp only [List.map_cons, commas, Expr.sizeAll, weight_append] at ih ⊢
      rw [weight_cons (by decide), ih, ha]
      omega

theorem weight_group (ts : List Token) : weight (.sign "(" :: (ts ++ [.sign ")"])) = weight ts := by
  rw [weight_cons_paren (by decide), weight_append, weight_cons_paren (by decide), weight_nil,
    Nat.add_zero]

theorem weight_of_derives {n : Nat} {ts : List Token} {x : Expr} (h : Derives n ts x) :
    weight ts = x.size := by
  induction h with
  | name free => rfl
  | number => rfl
  | group inner ih => rw [weight_group, ih]
  | member hn target ih =>
    rw [weight_append, weight_cons (by decide), weight_cons rfl, weight_nil, ih, Expr.size]
  | call hn callee inner ihf iha =>
    rw [weight_append, weight_group, weight_commas iha, ihf, Expr.size]
  | @unary n u ts x hn operand ih => rw [weight_cons u.sign_not_paren, ih, Expr.size]
  | @binary n op ts us l r hn left right ihl ihr =>
    rw [weight_append, weight_cons op.sign_not_paren, ihl, ihr, Expr.size]
    omega

/-- Two ways to split a list at tokens that are no parentheses agree if they leave as many before. -/
theorem split_unique {ts us ts' us' : List Token} {t t' : Token} (h : ts ++ t :: us = ts' ++ t' :: us')
    (ht : t.isParen = false) (ht' : t'.isParen = false) (hw : weight ts = weight ts') :
    ts = ts' ∧ t = t' ∧ us = us' := by
  induction ts generalizing ts' with
  | nil =>
    cases ts' with
    | nil => simpa using h
    | cons a ts' =>
      obtain ⟨rfl, -⟩ := List.cons.inj h
      rw [weight_cons ht, weight_nil] at hw
      omega
  | cons a ts ih =>
    cases ts' with
    | nil =>
      obtain ⟨rfl, -⟩ := List.cons.inj h
      rw [weight_cons ht', weight_nil] at hw
      omega
    | cons b ts' =>
      obtain ⟨rfl, hrest⟩ := List.cons.inj h
      have hw : weight ts = weight ts' := by
        by_cases ha : a.isParen = true
        · rwa [weight_cons_paren ha, weight_cons_paren ha] at hw
        · have ha : a.isParen = false := by simpa using ha
          rw [weight_cons ha, weight_cons ha] at hw
          omega
      obtain ⟨rfl, rfl, rfl⟩ := ih hrest hw
      exact ⟨rfl, rfl, rfl⟩

/-! Parentheses -/

/-- The number of parentheses that are open after the tokens, if none is closed before it is opened. -/
def depthFrom : Nat → List Token → Option Nat
  | d, [] => some d
  | d, t :: ts =>
    if t = .sign "(" then depthFrom (d + 1) ts
    else if t = .sign ")" then
      match d with
      | 0 => none
      | d + 1 => depthFrom d ts
    else depthFrom d ts

def Balanced (ts : List Token) : Prop := ∀ d, depthFrom d ts = some d

theorem depthFrom_append (d : Nat) (ts us : List Token) :
    depthFrom d (ts ++ us) = (depthFrom d ts).bind fun k => depthFrom k us := by
  induction ts generalizing d with
  | nil => rfl
  | cons t ts ih =>
    simp only [List.cons_append, depthFrom]
    split_ifs
    · exact ih _
    · cases d with
      | zero => rfl
      | succ d => exact ih d
    · exact ih d

theorem depthFrom_succ {d k : Nat} {ts : List Token} (h : depthFrom d ts = some k) :
    depthFrom (d + 1) ts = some (k + 1) := by
  induction ts generalizing d with
  | nil =>
    cases h
    rfl
  | cons t ts ih =>
    simp only [depthFrom] at h ⊢
    split_ifs at h ⊢
    · exact ih h
    · cases d with
      | zero => cases h
      | succ d => exact ih h
    · exact ih h

theorem balanced_nil : Balanced [] := fun _ => rfl

theorem Balanced.append {ts us : List Token} (h1 : Balanced ts) (h2 : Balanced us) :
    Balanced (ts ++ us) := by
  intro d
  rw [depthFrom_append, h1 d, Option.bind_some, h2 d]

theorem Balanced.cons {t : Token} (ht : t.isParen = false) {ts : List Token} (h : Balanced ts) :
    Balanced (t :: ts) := by
  intro d
  simp only [Token.isParen, Bool.or_eq_false_iff, decide_eq_false_iff_not] at ht
  simp only [depthFrom, ht.1, ht.2, if_false]
  exact h d

theorem Balanced.group {ts : List Token} (h : Balanced ts) :
    Balanced (Token.sign "(" :: (ts ++ [Token.sign ")"])) := by
  intro d
  simp only [depthFrom, if_true]
  rw [depthFrom_append, h (d + 1)]
  rfl

theorem balanced_commas {uss : List (List Token)} (h : ∀ us ∈ uss, Balanced us) :
    Balanced (commas uss) := by
  induction uss with
  | nil => exact balanced_nil
  | cons us uss ih =>
    cases uss with
    | nil => exact h us (by simp)
    | cons vs uss =>
      exact (h us (by simp)).append ((ih fun ws hw => h ws (by simp [hw])).cons (by decide))

theorem balanced_of_derives {n : Nat} {ts : List Token} {x : Expr} (h : Derives n ts x) :
    Balanced ts := by
  induction h with
  | name free => exact balanced_nil.cons rfl
  | number => exact balanced_nil.cons rfl
  | group inner ih => exact ih.group
  | member hn target ih => exact ih.append ((balanced_nil.cons rfl).cons (by decide))
  | call hn callee inner ihf iha =>
    refine ihf.append (balanced_commas fun us hus => ?_).group
    obtain ⟨a, ha, rfl⟩ := List.mem_map.1 hus
    exact iha a ha
  | @unary n u ts x hn operand ih => exact ih.cons u.sign_not_paren
  | @binary n op ts us l r hn left right ihl ihr => exact ihl.append (ihr.cons op.sign_not_paren)

/-- Balanced tokens before some other token do not begin with the parenthesis of a group around it. -/
theorem group_ne_split {ts us vs : List Token} {t : Token} (ht : t.isParen = false)
    (hts : Balanced ts) (hvs : Balanced vs) : ts ++ t :: us ≠ .sign "(" :: (vs ++ [.sign ")"]) := by
  intro h
  cases ts with
  | nil =>
    obtain ⟨rfl, -⟩ := List.cons.inj h
    cases ht
  | cons a ts =>
    obtain ⟨rfl, hrest⟩ := List.cons.inj h
    have hopen : depthFrom 1 ts = some 0 := hts 0
    have hpre : ∃ ws, vs = ts ++ ws := by
      rcases List.append_eq_append_iff.1 hrest with ⟨ws, hvs', -⟩ | ⟨ws, -, hws⟩
      · exact ⟨ws, hvs'⟩
      · cases ws with
        | nil =>
          obtain ⟨rfl, -⟩ := List.cons.inj hws
          cases ht
        | cons w ws => simp at hws
    obtain ⟨ws, rfl⟩ := hpre
    have hclosed := hvs 0
    rw [depthFrom_append] at hclosed
    obtain ⟨k, hk, -⟩ := Option.bind_eq_some_iff.1 hclosed
    rw [depthFrom_succ hk] at hopen
    cases hopen

/-! Inversions -/

theorem derives_binary_inv {n : Nat} {ts us : List Token} {op : BinaryOp} {l r : Expr}
    (h : Derives n (ts ++ .sign op.sign :: us) (.binary op l r)) (hb : Balanced ts)
    (hw : weight ts = l.size) :
    n ≤ op.level ∧ Derives op.level ts l ∧ Derives (op.level + 1) us r := by
  generalize hts : ts ++ .sign op.sign :: us = vs at h
  cases h with
  | group inner =>
    exact absurd hts (group_ne_split op.sign_not_paren hb (balanced_of_derives inner))
  | binary hn left right =>
    obtain ⟨rfl, -, rfl⟩ := split_unique hts op.sign_not_paren op.sign_not_paren
      (hw.trans (weight_of_derives left).symm)
    exact ⟨hn, left, right⟩

theorem derives_group_inv {n : Nat} {ts : List Token} {op : BinaryOp} {l r : Expr}
    (h : Derives n (.sign "(" :: (ts ++ [.sign ")"])) (.binary op l r)) (hb : Balanced ts) :
    Derives 0 ts (.binary op l r) := by
  generalize hts : Token.sign "(" :: (ts ++ [.sign ")"]) = vs at h
  cases h with
  | group inner =>
    obtain ⟨-, hrest⟩ := List.cons.inj hts
    rw [List.append_cancel_right hrest]
    exact inner
  | binary hn left right =>
    exact absurd hts.symm (group_ne_split op.sign_not_paren (balanced_of_derives left) hb)

theorem derives_unary_inv {n : Nat} {ts : List Token} {u : UnaryOp} {x : Expr}
    (h : Derives n (.sign u.sign :: ts) (.unary u x)) :
    n ≤ UnaryOp.level ∧ Derives UnaryOp.level ts x := by
  generalize hts : Token.sign u.sign :: ts = vs at h
  cases h with
  | group inner =>
    obtain ⟨hu, -⟩ := List.cons.inj hts
    have := u.sign_not_paren
    rw [hu] at this
    cases this
  | unary hn operand =>
    obtain ⟨-, rfl⟩ := List.cons.inj hts
    exact ⟨hn, operand⟩

theorem commas_inj {as bs : List (List Token × Expr)} (ha : ∀ a ∈ as, weight a.1 = a.2.size)
    (hb : ∀ b ∈ bs, weight b.1 = b.2.size) (hx : as.map Prod.snd = bs.map Prod.snd)
    (h : commas (as.map Prod.fst) = commas (bs.map Prod.fst)) : as = bs := by
  induction as generalizing bs with
  | nil => exact (List.map_eq_nil_iff.1 hx.symm).symm
  | cons a as ih =>
    cases bs with
    | nil => cases hx
    | cons b bs =>
      obtain ⟨hab, hrest⟩ := List.cons.inj hx
      have hw : weight a.1 = weight b.1 := by rw [ha a (by simp), hb b (by simp), hab]
      cases as with
      | nil =>
        obtain rfl := List.map_eq_nil_iff.1 hrest.symm
        exact congrArg (· :: []) (Prod.ext h hab)
      | cons a' as =>
        cases bs with
        | nil => cases hrest
        | cons b' bs =>
          obtain ⟨h1, -, h2⟩ := split_unique h (by decide) (by decide) hw
          rw [Prod.ext h1 hab, ih (fun c hc => ha c (by simp [hc])) (fun c hc => hb c (by simp [hc]))
            hrest h2]

/-- A name, or a member of a name, with its tokens. -/
inductive Callee : List Token → Expr → Prop where
  | name {s : String} (free : s ∉ reserved) : Callee [.word s] (.name s)
  | member {s m : String} (free : s ∉ reserved) :
      Callee [.word s, .sign ".", .word m] (.member (.name s) m)

theorem Callee.derives {ts : List Token} {f : Expr} (h : Callee ts f) :
    Derives primaryLevel ts f := by
  cases h with
  | name free => exact .name free
  | @member s m free =>
    have hname : Derives primaryLevel [.word s] (.name s) := .name free
    exact .member (Nat.le_refl _) hname

theorem Callee.balanced {ts : List Token} {f : Expr} (h : Callee ts f) : Balanced ts :=
  balanced_of_derives h.derives

theorem Callee.weight {ts : List Token} {f : Expr} (h : Callee ts f) : weight ts = f.size :=
  weight_of_derives h.derives

/-- No other tokens of the callee have the same beginning. -/
theorem Callee.unique {ts us vs ws : List Token} {f : Expr} {n : Nat} (h : Callee ts f)
    (hd : Derives n us f) (heq : us ++ vs = ts ++ ws) : us = ts := by
  cases h with
  | name free =>
    cases hd with
    | name free => rfl
    | group inner => cases heq
  | member free =>
    cases hd with
    | group inner => cases heq
    | member hn target =>
      cases target with
      | name free => rfl
      | group inner => cases heq

theorem derives_call_inv {n : Nat} {ts : List Token} {f : Expr} {args : List (List Token × Expr)}
    (hf : Callee ts f) (hw : ∀ a ∈ args, weight a.1 = a.2.size)
    (h : Derives n (ts ++ Token.sign "(" :: (commas (args.map Prod.fst) ++ [Token.sign ")"]))
      (.call f (args.map Prod.snd))) : ∀ a ∈ args, Derives 0 a.1 a.2 := by
  generalize hx : Expr.call f (args.map Prod.snd) = x at h
  generalize hts : ts ++ Token.sign "(" :: (commas (args.map Prod.fst) ++ [Token.sign ")"]) = vs at h
  cases h with
  | name free => cases hx
  | number => cases hx
  | member hn target => cases hx
  | unary hn operand => cases hx
  | binary hn left right => cases hx
  | group inner => cases hf <;> cases hts
  | @call _ us g args' hn callee inner =>
    obtain ⟨rfl, hmap⟩ := Expr.call.inj hx
    obtain rfl := hf.unique callee hts.symm
    have hrest := List.append_cancel_left hts
    have hcommas := List.append_cancel_right (List.cons.inj hrest).2
    have hargs := commas_inj hw (fun a ha => weight_of_derives (inner a ha)) hmap hcommas
    rw [hargs]
    exact inner

/-! Updates -/

mutual

/-- The expression has no updates. -/
def Expr.isPlain : Expr → Bool
  | .name _ => true
  | .number _ => true
  | .member x _ => x.isPlain
  | .call f args => f.isPlain && allPlain args
  | .unary op x => op ≠ .decrease && op ≠ .increase && x.isPlain
  | .binary _ l r => l.isPlain && r.isPlain

def Expr.allPlain : List Expr → Bool
  | [] => true
  | x :: xs => x.isPlain && allPlain xs

end

theorem Expr.allPlain_iff {xs : List Expr} : allPlain xs = true ↔ ∀ x ∈ xs, x.isPlain = true := by
  induction xs with
  | nil => simp [allPlain]
  | cons x xs ih => simp [allPlain, ih]

theorem updates_of_cons {t : Token} {ts : List Token} (h : Updates (t :: ts))
    (ht : ¬ Updates [t]) : Updates ts := by
  unfold Updates at h ht ⊢
  simp only [List.mem_cons, List.not_mem_nil, or_false] at h ht
  tauto

theorem updates_append {ts us : List Token} (h : Updates (ts ++ us)) : Updates ts ∨ Updates us := by
  unfold Updates at h ⊢
  simp only [List.mem_append] at h
  tauto

theorem not_updates_nil : ¬ Updates [] := by
  simp [Updates]

theorem updates_commas {uss : List (List Token)} (h : Updates (commas uss)) :
    ∃ us ∈ uss, Updates us := by
  induction uss with
  | nil => exact absurd h not_updates_nil
  | cons us uss ih =>
    cases uss with
    | nil => exact ⟨us, by simp, h⟩
    | cons vs uss =>
      rcases updates_append h with h | h
      · exact ⟨us, by simp, h⟩
      · obtain ⟨ws, hws, hw⟩ := ih (updates_of_cons h (by simp [Updates]))
        exact ⟨ws, by simp [hws], hw⟩

/-- Tokens of an update are read as updates. -/
theorem not_updates_of_derives {n : Nat} {ts : List Token} {x : Expr} (h : Derives n ts x)
    (hx : x.isPlain = true) : ¬ Updates ts := by
  have hgroup {ts : List Token} (hts : ¬ Updates ts) :
      ¬ Updates (.sign "(" :: (ts ++ [.sign ")"])) := by
    intro hu
    rcases updates_append (updates_of_cons hu (by simp [Updates])) with h | h
    · exact hts h
    · revert h
      simp [Updates]
  induction h with
  | name free => simp [Updates]
  | number => simp [Updates]
  | group inner ih => exact hgroup (ih hx)
  | member hn target ih =>
    intro hu
    rcases updates_append hu with h | h
    · exact ih hx h
    · revert h
      simp [Updates]
  | @call n ts f args hn callee inner ihf iha =>
    obtain ⟨hf, hargs⟩ := Bool.and_eq_true_iff.1 hx
    intro hu
    rcases updates_append hu with h | h
    · exact ihf hf h
    refine hgroup (fun h => ?_) h
    obtain ⟨us, hus, h⟩ := updates_commas h
    obtain ⟨a, ha, rfl⟩ := List.mem_map.1 hus
    exact iha a ha (Expr.allPlain_iff.1 hargs a.2 (List.mem_map_of_mem ha)) h
  | @unary n u ts x hn operand ih =>
    simp only [Expr.isPlain, Bool.and_eq_true, decide_eq_true_eq] at hx
    have hsign : ¬ Updates [.sign u.sign] := by
      cases u <;> simp_all [Updates, UnaryOp.sign]
    exact fun hu => ih hx.2 (updates_of_cons hu hsign)
  | @binary n op ts us l r hn left right ihl ihr =>
    obtain ⟨hl, hr⟩ := Bool.and_eq_true_iff.1 hx
    intro hu
    rcases updates_append hu with h | h
    · exact ihl hl h
    have hsign : ¬ Updates [.sign op.sign] := by
      cases op <;> simp [Updates, BinaryOp.sign]
    exact ihr hr (updates_of_cons h hsign)

end Transpile.Reading
