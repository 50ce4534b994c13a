import Transpile.Proofs.Reading.Grammar

/-! A reader for the grammar. It goes over the tokens once and holds what is still open in frames;
an operator closes the frames above it that bind at least as tightly. Main statement: it reads
exactly what the grammar derives, so tokens have one reading at most. -/

namespace Transpile.Reading

/-- What is open around the next operand. -/
inductive Frame where
  | paren
  /-- A call with the arguments so far. -/
  | args (f : Expr) (done : List Expr)
  | unary (op : UnaryOp)
  | left (x : Expr) (op : BinaryOp)

/-- What the reader waits for: an operand, what follows one, or the name of a member. -/
inductive Mode where
  | operand
  | after (x : Expr)
  | member (x : Expr)

abbrev Reader := List Frame × Mode

/-- Closes frames that bind at least as tightly as the level. -/
def reduce (p : Nat) : List Frame → Expr → List Frame × Expr
  | .unary u :: fs, x => reduce p fs (.unary u x)
  | .left l op :: fs, x => if p ≤ op.level then reduce p fs (.binary op l x) else (.left l op :: fs, x)
  | fs, x => (fs, x)

/-- Closes a parenthesis or the arguments of a call. -/
def close : List Frame × Expr → Option Reader
  | (.paren :: fs, x) => some (fs, .after x)
  | (.args f done :: fs, x) => some (fs, .after (.call f (done ++ [x])))
  | _ => none

/-- Goes on to the next argument. -/
def nextArg : List Frame × Expr → Option Reader
  | (.args f done :: fs, x) => some (.args f (done ++ [x]) :: fs, .operand)
  | _ => none

/-- A call without arguments is closed where its first argument would stand. -/
def closeEmpty : List Frame → Option Reader
  | .args f [] :: fs => some (fs, .after (.call f []))
  | _ => none

def stepOperand (fs : List Frame) : Token → Option Reader
  | .word s => if s ∈ reserved then none else some (fs, .after (.name s))
  | .number s => some (fs, .after (.number s))
  | .sign s =>
    if s = "(" then some (.paren :: fs, .operand)
    else if s = ")" then closeEmpty fs
    else (UnaryOp.ofSign? s).map fun u => (.unary u :: fs, .operand)

def stepAfter (fs : List Frame) (x : Expr) : Token → Option Reader
  | .sign s =>
    if s = "(" then some (.args x [] :: fs, .operand)
    else if s = "." then some (fs, .member x)
    else if s = ")" then close (reduce 0 fs x)
    else if s = "," then nextArg (reduce 0 fs x)
    else (BinaryOp.ofSign? s).map fun op =>
      (.left (reduce op.level fs x).2 op :: (reduce op.level fs x).1, .operand)
  | _ => none

def step : Reader → Token → Option Reader
  | (fs, .operand), t => stepOperand fs t
  | (fs, .after x), t => stepAfter fs x t
  | (fs, .member x), .word s => some (fs, .after (.member x s))
  | (_, .member _), _ => none

/-- The expression that was read when the tokens end. -/
def finish : Reader → Option Expr
  | (fs, .after x) =>
    match reduce 0 fs x with
    | ([], y) => some y
    | _ => none
  | _ => none

def read (ts : List Token) : Option Expr := (ts.foldlM step ([], .operand)).bind finish

/-- The expression of a statement: its text ends with a semicolon. -/
def readStatement (s : String) : Option Expr := do
  let ts ← lex s
  if ts.getLast? = some (.sign ";") then read ts.dropLast else none

/-! Frames -/

/-- How tightly the next operand has to bind. -/
def need : List Frame → Nat
  | .unary _ :: _ => UnaryOp.level
  | .left _ op :: _ => op.level + 1
  | _ => 0

/-- Closes the frames around an expression, the first one innermost. -/
def plug : List Frame → Expr → Expr
  | [], x => x
  | .unary u :: fs, x => plug fs (.unary u x)
  | .left l op :: fs, x => plug fs (.binary op l x)
  | _ :: fs, x => plug fs x

/-- Frames of operators that bind at least as tightly as the level. -/
def Tight (p : Nat) (fs : List Frame) : Prop :=
  ∀ f ∈ fs, (∃ u, f = .unary u ∧ p ≤ UnaryOp.level) ∨ ∃ l op, f = .left l op ∧ p ≤ op.level

theorem Tight.mono {p q : Nat} {fs : List Frame} (h : Tight p fs) (hq : q ≤ p) : Tight q fs := by
  intro f hf
  rcases h f hf with ⟨u, rfl, hu⟩ | ⟨l, op, rfl, ho⟩
  · exact .inl ⟨u, rfl, by omega⟩
  · exact .inr ⟨l, op, rfl, by omega⟩

theorem Tight.append {p : Nat} {fs gs : List Frame} (h1 : Tight p fs) (h2 : Tight p gs) :
    Tight p (fs ++ gs) := by
  intro f hf
  rcases List.mem_append.1 hf with hf | hf
  · exact h1 f hf
  · exact h2 f hf

theorem plug_append (fs gs : List Frame) (x : Expr) : plug (fs ++ gs) x = plug gs (plug fs x) := by
  induction fs generalizing x with
  | nil => rfl
  | cons f fs ih => cases f <;> exact ih _

/-- No operator binds as tightly as a call. -/
theorem tight_primary {fs : List Frame} (h : Tight primaryLevel fs) : fs = [] := by
  cases fs with
  | nil => rfl
  | cons f fs =>
    rcases h f (by simp) with ⟨u, -, hu⟩ | ⟨l, op, -, ho⟩
    · exact absurd hu (by decide)
    · have := op.level_le
      simp only [primaryLevel] at ho
      omega

theorem reduce_of_need {p : Nat} (hp : p ≤ 10) {fs : List Frame} (h : need fs ≤ p) (x : Expr) :
    reduce p fs x = (fs, x) := by
  cases fs with
  | nil => rfl
  | cons f fs =>
    cases f with
    | paren => rfl
    | args f done => rfl
    | unary u =>
      simp only [need, UnaryOp.level] at h
      omega
    | left l op =>
      simp only [need] at h
      rw [reduce, if_neg (by omega)]

theorem reduce_append {p : Nat} {fs gs : List Frame} (h : Tight p fs) (x : Expr) :
    reduce p (fs ++ gs) x = reduce p gs (plug fs x) := by
  induction fs generalizing x with
  | nil => rfl
  | cons f fs ih =>
    have ht : Tight p fs := fun g hg => h g (by simp [hg])
    rcases h f (by simp) with ⟨u, rfl, -⟩ | ⟨l, op, rfl, ho⟩
    · exact ih ht _
    · rw [List.cons_append, reduce, if_pos ho]
      exact ih ht _

/-! Completeness -/

theorem stepOperand_unary (fs : List Frame) (u : UnaryOp) :
    step (fs, .operand) (.sign u.sign) = some (.unary u :: fs, .operand) := by
  have h1 : u.sign ≠ "(" := by cases u <;> decide
  have h2 : u.sign ≠ ")" := by cases u <;> decide
  simp [step, stepOperand, h1, h2, UnaryOp.ofSign?_sign]

theorem stepAfter_binary (fs : List Frame) (x : Expr) (op : BinaryOp) :
    step (fs, .after x) (.sign op.sign) =
      some (.left (reduce op.level fs x).2 op :: (reduce op.level fs x).1, .operand) := by
  have h : ∀ s ∈ ["(", ".", ")", ","], op.sign ≠ s := by cases op <;> decide
  simp [step, stepAfter, h "(" (by simp), h "." (by simp), h ")" (by simp), h "," (by simp),
    BinaryOp.ofSign?_sign]

/-- The reader takes the tokens of an expression to an open operand: the frames that are left above
those it started with close to the expression. -/
def Reads (n : Nat) (ts : List Token) (x : Expr) : Prop :=
  ∀ fs, need fs ≤ n → ∃ gs y, ts.foldlM step (fs, .operand) = some (gs ++ fs, .after y) ∧
    Tight n gs ∧ plug gs y = x

theorem Reads.primary {ts : List Token} {x : Expr} (h : Reads primaryLevel ts x) {fs : List Frame}
    (hfs : need fs ≤ primaryLevel) :
    ts.foldlM step (fs, .operand) = some (fs, .after x) := by
  obtain ⟨gs, y, hr, ht, rfl⟩ := h fs hfs
  cases tight_primary ht
  exact hr

/-- Tokens inside parentheses are reduced to the expression when they are closed. -/
theorem Reads.inner {ts : List Token} {x : Expr} (h : Reads 0 ts x) (fs : List Frame)
    (hfs : need fs = 0) : ∃ gs y, ts.foldlM step (fs, .operand) = some (gs ++ fs, .after y) ∧
      reduce 0 (gs ++ fs) y = (fs, x) := by
  obtain ⟨gs, y, hr, ht, rfl⟩ := h fs (by omega)
  refine ⟨gs, y, hr, ?_⟩
  rw [reduce_append ht, reduce_of_need (by omega) (by omega)]

theorem reads_args {f : Expr} (args : List (List Token × Expr)) (hargs : args ≠ [])
    (h : ∀ a ∈ args, Reads 0 a.1 a.2) (done : List Expr) (fs : List Frame) :
    (commas (args.map Prod.fst) ++ [Token.sign ")"]).foldlM step (.args f done :: fs, .operand) =
      some (fs, .after (.call f (done ++ args.map Prod.snd))) := by
  induction args generalizing done with
  | nil => exact absurd rfl hargs
  | cons a args ih =>
    obtain ⟨gs, y, hr, hred⟩ := (h a (by simp)).inner (.args f done :: fs) rfl
    cases args with
    | nil =>
      simp only [List.map_cons, List.map_nil, commas]
      rw [List.foldlM_append, hr]
      simp [step, stepAfter, hred, close]
    | cons b args =>
      have hnext := ih (by simp) (fun c hc => h c (by simp [hc])) (done ++ [a.2])
      simp only [List.map_cons, commas] at hnext ⊢
      rw [List.append_assoc, List.foldlM_append, hr]
      simp only [List.cons_append, List.foldlM_cons, Option.bind_eq_bind, Option.bind_some, step,
        stepAfter, hred]
      simpa [nextArg] using hnext

theorem reads_of_derives {n : Nat} {ts : List Token} {x : Expr} (h : Derives n ts x) :
    Reads n ts x := by
  induction h with
  | name free =>
    intro fs _
    exact ⟨[], _, by simp [step, stepOperand, free], by simp [Tight], rfl⟩
  | number => exact fun fs _ => ⟨[], _, by simp [step, stepOperand], by simp [Tight], rfl⟩
  | group inner ih =>
    intro fs _
    obtain ⟨gs, y, hr, hred⟩ := ih.inner (.paren :: fs) rfl
    refine ⟨[], _, ?_, by simp [Tight], rfl⟩
    have hopen : step (fs, .operand) (.sign "(") = some (.paren :: fs, .operand) := rfl
    rw [List.foldlM_cons, hopen]
    change List.foldlM step (Frame.paren :: fs, Mode.operand) _ = _
    rw [List.foldlM_append, hr]
    simp [step, stepAfter, hred, close]
  | member hn target ih =>
    intro fs hfs
    refine ⟨[], _, ?_, by simp [Tight], rfl⟩
    rw [List.foldlM_append, ih.primary (by omega)]
    simp [step, stepAfter]
  | @call n ts f args hn callee inner ihf iha =>
    intro fs hfs
    refine ⟨[], _, ?_, by simp [Tight], rfl⟩
    rw [List.foldlM_append, ihf.primary (by omega)]
    have hopen : step (fs, .after f) (.sign "(") = some (.args f [] :: fs, .operand) := rfl
    simp only [Option.bind_eq_bind, Option.bind_some, List.foldlM_cons, hopen]
    cases args with
    | nil => simp [commas, step, stepOperand, closeEmpty]
    | cons a args => simpa using reads_args (a :: args) (by simp) iha [] fs
  | @unary n u ts x hn operand ih =>
    intro fs hfs
    obtain ⟨gs, y, hr, ht, rfl⟩ := ih (.unary u :: fs) (by simp [need])
    refine ⟨gs ++ [.unary u], y, ?_, ?_, plug_append gs _ y⟩
    · rw [List.foldlM_cons, stepOperand_unary]
      simpa using hr
    · exact (ht.mono hn).append fun f hf => .inl ⟨u, by simpa using hf, hn⟩
  | @binary n op ts us l r hn left right ihl ihr =>
    intro fs hfs
    obtain ⟨gs, y, hr, ht, rfl⟩ := ihl fs (by omega)
    have hred : reduce op.level (gs ++ fs) y = (fs, plug gs y) := by
      rw [reduce_append ht, reduce_of_need op.level_le (by omega)]
    obtain ⟨gs', y', hr', ht', rfl⟩ := ihr (.left (plug gs y) op :: fs) (by simp [need])
    refine ⟨gs' ++ [.left (plug gs y) op], y', ?_, ?_, plug_append gs' _ y'⟩
    · rw [List.foldlM_append, hr]
      simp only [Option.bind_eq_bind, Option.bind_some, List.foldlM_cons, stepAfter_binary, hred]
      simpa using hr'
    · refine (ht'.mono (by omega)).append fun f hf => .inr ⟨plug gs y, op, ?_, hn⟩
      simpa using hf

theorem read_of_derives {ts : List Token} {x : Expr} (h : Derives 0 ts x) : read ts = some x := by
  obtain ⟨gs, y, hr, hred⟩ := (reads_of_derives h).inner [] rfl
  rw [read, hr, Option.bind_some, finish, hred]

/-! Soundness -/

theorem commas_concat (args : List (List Token × Expr)) (ts : List Token) :
    commas (args.map Prod.fst ++ [ts]) = args.flatMap (fun a => a.1 ++ [Token.sign ","]) ++ ts := by
  induction args with
  | nil => rfl
  | cons a args ih =>
    cases args with
    | nil => simp [commas]
    | cons b args =>
      simp only [List.map_cons, List.cons_append, commas] at ih ⊢
      rw [ih]
      simp

/-- The frames that the reader holds after the tokens. -/
inductive Holds : List Frame → List Token → Prop where
  | nil : Holds [] []
  | paren {fs : List Frame} {ts : List Token} (below : Holds fs ts) :
      Holds (.paren :: fs) (ts ++ [.sign "("])
  | args {fs : List Frame} {ts us : List Token} {f : Expr} {done : List (List Token × Expr)}
      (below : Holds fs ts) (callee : Derives primaryLevel us f)
      (inner : ∀ a ∈ done, Derives 0 a.1 a.2) :
      Holds (.args f (done.map Prod.snd) :: fs)
        (ts ++ us ++ .sign "(" :: done.flatMap fun a => a.1 ++ [.sign ","])
  | unary {fs : List Frame} {ts : List Token} {u : UnaryOp} (below : Holds fs ts)
      (fits : need fs ≤ UnaryOp.level) : Holds (.unary u :: fs) (ts ++ [.sign u.sign])
  | left {fs : List Frame} {ts us : List Token} {l : Expr} {op : BinaryOp} (below : Holds fs ts)
      (fits : need fs ≤ op.level) (left : Derives op.level us l) :
      Holds (.left l op :: fs) (ts ++ us ++ [.sign op.sign])

/-- Closing frames keeps the tokens and leaves an operand that binds tightly enough for the level and
for the frames that stay. -/
theorem holds_reduce {p q : Nat} {fs : List Frame} {ts us : List Token} {x : Expr} (hf : Holds fs ts)
    (hx : Derives q us x) (hneed : need fs ≤ q) (hp : p ≤ q) (hp' : p ≤ 10) :
    ∃ vs ws, ts ++ us = vs ++ ws ∧ Holds (reduce p fs x).1 vs ∧ Derives p ws (reduce p fs x).2 ∧
      need (reduce p fs x).1 ≤ p := by
  induction hf generalizing q us x with
  | nil => exact ⟨[], us, rfl, .nil, hx.mono hp, by simp [need, reduce]⟩
  | paren below => exact ⟨_, us, rfl, .paren below, hx.mono hp, by simp [need, reduce]⟩
  | args below callee inner =>
    exact ⟨_, us, rfl, .args below callee inner, hx.mono hp, by simp [need, reduce]⟩
  | @unary fs ts u below fits ih =>
    have hu : Derives UnaryOp.level (.sign u.sign :: us) (.unary u x) :=
      .unary (Nat.le_refl _) (hx.mono hneed)
    obtain ⟨vs, ws, hts, h⟩ := ih hu fits (by simp only [UnaryOp.level]; omega)
    exact ⟨vs, ws, by rw [← hts]; simp, h⟩
  | @left fs ts vs l op below fits left ih =>
    by_cases hpo : p ≤ op.level
    · obtain ⟨vs', ws, hts, h⟩ := ih (.binary (Nat.le_refl _) left (hx.mono hneed)) fits hpo
      rw [reduce, if_pos hpo]
      exact ⟨vs', ws, by rw [← hts]; simp, h⟩
    · rw [reduce, if_neg hpo]
      exact ⟨_, us, rfl, .left below fits left, hx.mono hp, by simp only [need]; omega⟩

theorem need_le (fs : List Frame) : need fs ≤ UnaryOp.level := by
  unfold need
  split
  · exact Nat.le_refl _
  · next op _ =>
    have := op.level_le
    simp only [UnaryOp.level]
    omega
  · exact Nat.zero_le _

theorem Holds.args_inv {f : Expr} {done : List Expr} {fs : List Frame} {ts : List Token}
    (h : Holds (.args f done :: fs) ts) :
    ∃ (us vs : List Token) (as : List (List Token × Expr)), done = as.map Prod.snd ∧
      ts = us ++ vs ++ Token.sign "(" :: as.flatMap (fun a => a.1 ++ [Token.sign ","]) ∧ Holds fs us ∧
      Derives primaryLevel vs f ∧ ∀ a ∈ as, Derives 0 a.1 a.2 := by
  cases h with
  | args below callee inner => exact ⟨_, _, _, rfl, rfl, below, callee, inner⟩

/-- What the reader has taken in after the tokens. -/
def Taken : Reader → List Token → Prop
  | (fs, .operand), ts => Holds fs ts
  | (fs, .after x), ts => ∃ us vs, ts = us ++ vs ∧ Holds fs us ∧ Derives primaryLevel vs x
  | (fs, .member x), ts => ∃ us vs, ts = us ++ vs ++ [.sign "."] ∧ Holds fs us ∧
      Derives primaryLevel vs x

theorem taken_stepOperand {fs : List Frame} {ts : List Token} {t : Token} {r : Reader}
    (h : Holds fs ts) (hs : stepOperand fs t = some r) : Taken r (ts ++ [t]) := by
  unfold stepOperand at hs
  split at hs
  · split_ifs at hs with hres
    cases hs
    exact ⟨ts, _, rfl, h, .name hres⟩
  · cases hs
    exact ⟨ts, _, rfl, h, .number⟩
  · split_ifs at hs with ho hc
    · cases hs
      subst ho
      exact .paren h
    · unfold closeEmpty at hs
      split at hs
      · cases hs
        subst hc
        obtain ⟨us, vs, as, has, rfl, below, callee, -⟩ := h.args_inv
        obtain rfl := List.map_eq_nil_iff.1 has.symm
        have hcall : Derives primaryLevel (vs ++ .sign "(" :: (commas [] ++ [.sign ")"])) (.call _ []) :=
          .call (Nat.le_refl _) callee (fun a (ha : a ∈ []) => by cases ha)
        exact ⟨us, _, by simp [commas], below, hcall⟩
      · cases hs
    · obtain ⟨u, hu, rfl⟩ := Option.map_eq_some_iff.1 hs
      rw [← UnaryOp.sign_of_ofSign? hu]
      exact .unary h (need_le fs)

theorem derives_concat {as : List (List Token × Expr)} (h : ∀ a ∈ as, Derives 0 a.1 a.2)
    {ts : List Token} {x : Expr} (hx : Derives 0 ts x) :
    ∀ a ∈ as ++ [(ts, x)], Derives 0 a.1 a.2 := by
  intro a ha
  rcases List.mem_append.1 ha with ha | ha
  · exact h a ha
  · rw [List.mem_singleton.1 ha]
    exact hx

theorem taken_close {fs : List Frame} {us vs : List Token} {x : Expr} {r : Reader} (h : Holds fs us)
    (hx : Derives 0 vs x) (hs : close (fs, x) = some r) : Taken r (us ++ vs ++ [Token.sign ")"]) := by
  unfold close at hs
  split at hs
  · next heq =>
    cases hs
    cases heq
    cases h with
    | paren below => exact ⟨_, _, by simp, below, .group hx⟩
  · next heq =>
    cases hs
    cases heq
    obtain ⟨us, ws, as, rfl, rfl, below, callee, inner⟩ := h.args_inv
    have hargs := derives_concat inner hx
    have hcall := Derives.call (Nat.le_refl _) callee hargs
    rw [List.map_append, List.map_append, List.map_singleton, List.map_singleton, commas_concat] at hcall
    exact ⟨us, _, by simp, below, hcall⟩
  · cases hs

theorem taken_nextArg {fs : List Frame} {us vs : List Token} {x : Expr} {r : Reader} (h : Holds fs us)
    (hx : Derives 0 vs x) (hs : nextArg (fs, x) = some r) : Taken r (us ++ vs ++ [.sign ","]) := by
  unfold nextArg at hs
  split at hs
  · next heq =>
    cases hs
    cases heq
    obtain ⟨us, ws, as, rfl, rfl, below, callee, inner⟩ := h.args_inv
    have hargs := derives_concat inner hx
    have hh := Holds.args below callee hargs
    simpa [Taken] using hh
  · cases hs

theorem taken_stepAfter {fs : List Frame} {us vs : List Token} {x : Expr} {t : Token} {r : Reader}
    (h : Holds fs us) (hx : Derives primaryLevel vs x) (hs : stepAfter fs x t = some r) :
    Taken r (us ++ vs ++ [t]) := by
  have hneed : need fs ≤ primaryLevel := Nat.le_trans (need_le fs) (by decide)
  unfold stepAfter at hs
  split at hs
  · obtain ⟨us0, vs0, h0, hf0, hx0, -⟩ := holds_reduce (p := 0) h hx hneed (Nat.zero_le _) (Nat.zero_le _)
    split_ifs at hs with ho hd hc hm
    · cases hs
      subst ho
      exact .args h hx fun a (ha : a ∈ []) => by cases ha
    · cases hs
      subst hd
      exact ⟨us, vs, rfl, h, hx⟩
    · subst hc
      rw [h0]
      exact taken_close hf0 hx0 hs
    · subst hm
      rw [h0]
      exact taken_nextArg hf0 hx0 hs
    · obtain ⟨op, hop, rfl⟩ := Option.map_eq_some_iff.1 hs
      have hlevel := op.level_le
      obtain ⟨us', vs', h', hf', hx', hn'⟩ := holds_reduce (p := op.level) h hx hneed
        (by simp only [primaryLevel]; omega) hlevel
      rw [← BinaryOp.sign_of_ofSign? hop, h']
      exact .left hf' hn' hx'
  · cases hs

theorem taken_step {r r' : Reader} {ts : List Token} {t : Token} (h : Taken r ts)
    (hs : step r t = some r') : Taken r' (ts ++ [t]) := by
  unfold step at hs
  split at hs
  · exact taken_stepOperand h hs
  · obtain ⟨us, vs, rfl, hf, hx⟩ := h
    exact taken_stepAfter hf hx hs
  · cases hs
    obtain ⟨us, vs, rfl, hf, hx⟩ := h
    exact ⟨us, _, by simp, hf, .member (Nat.le_refl _) hx⟩
  · cases hs

theorem taken_foldlM {r r' : Reader} {ts us : List Token} (h : Taken r ts)
    (hs : us.foldlM step r = some r') : Taken r' (ts ++ us) := by
  induction us generalizing r ts with
  | nil =>
    cases hs
    simpa using h
  | cons u us ih =>
    rw [List.foldlM_cons] at hs
    obtain ⟨r1, h1, h2⟩ := Option.bind_eq_some_iff.1 hs
    have := ih (taken_step h h1) h2
    rwa [List.append_assoc] at this

theorem derives_of_read {ts : List Token} {x : Expr} (h : read ts = some x) : Derives 0 ts x := by
  obtain ⟨r, hr, hf⟩ := Option.bind_eq_some_iff.1 h
  have h0 : Taken ([], .operand) [] := Holds.nil
  have ht : Taken r ts := taken_foldlM h0 hr
  unfold finish at hf
  split at hf
  · obtain ⟨us, vs, rfl, hh, hx⟩ := ht
    obtain ⟨us', vs', h', hf', hx', -⟩ := holds_reduce (p := 0) hh hx
      (Nat.le_trans (need_le _) (by decide)) (Nat.zero_le _) (Nat.zero_le _)
    split at hf
    · next heq =>
      rw [heq] at hf' hx'
      cases hf
      cases hf'
      rw [h']
      exact hx'
    · cases hf
  · cases hf

/-- The reader reads what the grammar derives and nothing else. -/
theorem read_iff {ts : List Token} {x : Expr} : read ts = some x ↔ Derives 0 ts x :=
  ⟨derives_of_read, read_of_derives⟩

end Transpile.Reading
