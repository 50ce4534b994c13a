import Transpile.Proofs.Running.Meaning
import Transpile.Proofs.Shapes
import Transpile.Proofs.Temporaries.Apart

/-! List comprehensions. The function that is written for one loops over an array and pushes its elements
as they are, under the conditions; the target is never bound. Main statement: where the conditions have
values that do not depend on its temporaries, the function returns all elements or none, by what the
conditions are before the loop, and this is the list that the comprehension means exactly if for each
element the conditions hold when the target is bound to it as they do before, and the element expression
then gives the element back. -/

namespace Transpile.Running

open Source (Tree)
open Script Walk

/-- One generator over a name, with conditions. -/
def comprehensionTree (elt : Tree) (t : String) (use iter : Tree) (ifs : List Tree)
    (isAsync : Tree) : Tree :=
  .node .listComp [elt, .list [.node .comprehension [.node .name [.text t, use], iter, .list ifs,
    isAsync]]]

/-- A walk over the tree from some ready state gives the piece. -/
def Translates (o : Options) (t : Tree) (p : Piece) : Prop :=
  ∃ s s', Ready s ∧ run (visit t) o s = (.ok p, s')

/-- The names of a loop: the index, the length, the values and the results. -/
structure Counter where
  index : Piece
  length : Piece
  values : Piece
  results : Piece
  i : String
  n : String
  v : String
  r : String
  index_eq : identifier? index = some i
  length_eq : identifier? length = some n
  values_eq : identifier? values = some v
  results_eq : identifier? results = some r
  nodup : [i, n, v, r].Nodup

namespace Counter

variable (c : Counter)

def names : List String := [c.i, c.n, c.v, c.r]

/-- `results.push(values[index])` -/
def push : Piece :=
  (Form.call (dot c.results "push") (Seq.ofPiece (statement (Form.bracket c.values c.index).piece))).piece

end Counter

/-- Conditions after each other. -/
def joined (acc : Piece) (ps : List Piece) : Piece :=
  ps.foldl (fun acc p => if acc.isAbsent then p else binary "&&" acc p) acc

/-- The body of the loop. -/
def Counter.body (c : Counter) (conds : List Piece) : Piece :=
  if conds.isEmpty then block [c.push]
  else block [(Form.ifThen (joined .absent conds) (block [c.push]) .absent).piece]

/-- The statements of the function. -/
def Counter.collecting (c : Counter) (vars : List Piece) (source : Piece) (conds : List Piece) :
    List Piece :=
  [(Form.group .vars (.items vars)).piece, statement (assignTo "=" c.values source),
    statement (assignTo "=" c.results (Form.array (.items [])).piece),
    indexLoop c.index c.length c.values (c.body conds), (Form.returns c.results).piece]

/-! The walk -/

section

variable {o : Options} {s s' : State}

theorem run_fresh_ident {stem : String} {p : Piece} (h : run (fresh stem) o s = (.ok p, s')) :
    ∃ k, identifier? p = some (nameIn o (Scope.numbered stem k)) := by
  obtain ⟨_, _, hget, h⟩ := run_bind_ok h
  cases hget
  obtain ⟨q, s1, hname, h⟩ := run_bind_ok h
  obtain ⟨r, s2, hsite, h⟩ := run_bind_ok h
  obtain ⟨_, s3, hset, h⟩ := run_bind_ok h
  cases h
  rw [Tracked.run_sourceName_text] at hname
  cases hname
  cases hsite
  obtain ⟨k, hk, -⟩ := exists_fresh s.scope stem
  exact ⟨k, by rw [← hk]; rfl⟩

theorem ready_again {t : Tree} {p : Piece} (hs : Ready s)
    (h : run (walk t).again o s = (.ok p, s')) : Ready s' :=
  (walk_adds t).staysReady.again o s p s' h hs

theorem run_conditions {ts : List Tree} {acc p : Piece} (hs : Ready s)
    (h : run (conditions (walkAll ts) acc) o s = (.ok p, s')) :
    ∃ ps, List.Forall₂ (Translates o) ts ps ∧ p = joined acc ps := by
  induction ts generalizing acc s with
  | nil =>
    cases h
    exact ⟨[], .nil, rfl⟩
  | cons t ts ih =>
    obtain ⟨c, s1, hc, h⟩ := run_bind_ok h
    obtain ⟨ps, hps, rfl⟩ := ih (ready_again hs hc) h
    exact ⟨c :: ps, .cons ⟨s, s1, hs, hc⟩ hps, rfl⟩

/-- The four names differ, whatever their numbers are. -/
theorem nodup_names (i n v r : Nat) : [nameIn o (Scope.numbered "_i" i),
    nameIn o (Scope.numbered "_len" n), nameIn o (Scope.numbered "_values" v),
    nameIn o (Scope.numbered "_results" r)].Nodup := by
  have hne (st st' : Stem) (h : st.text ≠ st'.text) (j k : Nat) :
      nameIn o (Scope.numbered st.text j) ≠ nameIn o (Scope.numbered st'.text k) := fun he =>
    h (numbered_inj (nameIn_inj ⟨st, j, rfl⟩ ⟨st', k, rfl⟩ he)).1
  have hin := hne .index .length (by decide) i n
  have hiv := hne .index .values (by decide) i v
  have hir := hne .index .results (by decide) i r
  have hnv := hne .length .values (by decide) n v
  have hnr := hne .length .results (by decide) n r
  have hvr := hne .values .results (by decide) v r
  simp only [Stem.text] at hin hiv hir hnv hnr hvr
  simp [hin, hiv, hir, hnv, hnr, hvr]

theorem run_called {all p : Piece} (h : run (do
      let f ← functionOf (.items []) (Seq.ofPiece all)
      return callOf f.inParens []) o s = (.ok p, s')) :
    ∃ params, p = callOf (Form.function .expr .absent params (Seq.ofPiece all)).piece.inParens [] := by
  obtain ⟨f, s1, hf, h⟩ := run_bind_ok h
  cases h
  obtain ⟨params, rfl⟩ := results_functionOf _ _ _ _ _ hf
  exact ⟨params, rfl⟩

/-- What is written for a comprehension. -/
theorem run_comprehension {elt use iter isAsync : Tree} {t : String} {ifs : List Tree} {p : Piece}
    (hs : Ready s)
    (h : run (visit (comprehensionTree elt t use iter ifs isAsync)) o s = (.ok p, s')) :
    ∃ (c : Counter) (params : Seq) (vars : List Piece) (source : Piece) (conds : List Piece),
      (∀ x ∈ c.names, ∃ k, IsTemporary k ∧ x = nameIn o k) ∧ Translates o iter source ∧
      List.Forall₂ (Translates o) ifs conds ∧
      p = callOf (Form.function .expr .absent params
        (Seq.ofPiece (block (c.collecting vars source conds)))).piece.inParens [] := by
  obtain ⟨rec, hrec, rfl⟩ := exists_record h
  obtain ⟨s1, s2, s3, rss, -, -, -, hr0, hrule, -, -⟩ := run_record_stages hs hrec
  have hsteps := Frame.ofStaysReady.steps o
  change run (comprehensionRule (walk (.list _))) o _ = _ at hrule
  obtain ⟨_, _, hsize, hrule⟩ := run_bind_ok hrule
  cases hsize
  obtain ⟨_, _, hgiven1, hrule⟩ := run_bind_ok hrule
  obtain ⟨_, _, hgiven2, hrule⟩ := run_bind_ok hrule
  obtain ⟨_, _, hgiven3, hrule⟩ := run_bind_ok hrule
  have hr1 := keeps_given hsteps _ _ _ _ hgiven3 (keeps_given hsteps _ _ _ _ hgiven2
    (keeps_given hsteps _ _ _ _ hgiven1 hr0))
  obtain ⟨i, _, hi, hrule⟩ := run_bind_ok hrule
  obtain ⟨n, _, hn, hrule⟩ := run_bind_ok hrule
  obtain ⟨v, _, hv, hrule⟩ := run_bind_ok hrule
  obtain ⟨r, _, hr, hrule⟩ := run_bind_ok hrule
  have hr2 := keeps_fresh hsteps _ _ _ _ hr (keeps_fresh hsteps _ _ _ _ hv
    (keeps_fresh hsteps _ _ _ _ hn (keeps_fresh hsteps _ _ _ _ hi hr1)))
  obtain ⟨ki, hi⟩ := run_fresh_ident hi
  obtain ⟨kn, hn⟩ := run_fresh_ident hn
  obtain ⟨kv, hv⟩ := run_fresh_ident hv
  obtain ⟨kr, hr⟩ := run_fresh_ident hr
  obtain ⟨vars, _, hvars, hrule⟩ := run_bind_ok hrule
  have hr3 := keeps_mapM hsteps (fun p => keeps_declaration hsteps p _) _ _ _ _ hvars hr2
  obtain ⟨source, _, hsource, hrule⟩ := run_bind_ok hrule
  let c : Counter := ⟨i, n, v, r, _, _, _, _, hi, hn, hv, hr, nodup_names ki kn kv kr⟩
  have hnames : ∀ x ∈ c.names, ∃ k, IsTemporary k ∧ x = nameIn o k := by
    intro x hx
    simp only [Counter.names, List.mem_cons, List.not_mem_nil, or_false, c] at hx
    rcases hx with rfl | rfl | rfl | rfl
    · exact ⟨_, ⟨.index, ki, rfl⟩, rfl⟩
    · exact ⟨_, ⟨.length, kn, rfl⟩, rfl⟩
    · exact ⟨_, ⟨.values, kv, rfl⟩, rfl⟩
    · exact ⟨_, ⟨.results, kr, rfl⟩, rfl⟩
  cases ifs with
  | nil =>
    obtain ⟨params, hp⟩ := run_called hrule
    exact ⟨c, params, vars, source, [], hnames, ⟨_, _, hr3, hsource⟩, .nil, hp⟩
  | cons t ts =>
    obtain ⟨test, _, htest, hrule⟩ := run_bind_ok hrule
    obtain ⟨conds, hconds, rfl⟩ := run_conditions (ready_again hr3 hsource) htest
    obtain ⟨params, hp⟩ := run_called hrule
    refine ⟨c, params, vars, source, conds, hnames, ⟨_, _, hr3, hsource⟩, hconds, hp.trans ?_⟩
    cases hconds
    rfl

end

/-! The run -/

section

variable {α : Type} {w : World α}

/-- The piece has a value in every store, and the names do not matter for it. -/
structure Steady (w : World α) (names : List String) (p : Piece) (f : Store α → Value α) : Prop where
  eval : ∀ σ, evalPiece w p σ = some (f σ, σ)
  congr : ∀ {σ τ}, (∀ x ∉ names, σ x = τ x) → f σ = f τ

def allHold (w : World α) (fs : List (Store α → Value α)) (σ : Store α) : Bool :=
  fs.all fun f => w.holds (f σ)

/-- The list that a comprehension means: the values of the element expression for the elements for
which all conditions hold, with the target bound to the element. -/
def comprehend (w : World α) (t : String) (fs : List (Store α → Value α)) (e : Store α → Value α)
    (σ : Store α) (vs : List (Value α)) : List (Value α) :=
  vs.filterMap fun v =>
    if allHold w fs (Function.update σ t v) then some (e (Function.update σ t v)) else none

/-- Conditions one after the other, of which each is evaluated if those before it hold. -/
theorem eval_joined {names : List String} {acc : Piece} {v : Value α} {σ : Store α} {ps : List Piece}
    {fs : List (Store α → Value α)} (h : List.Forall₂ (Steady w names) ps fs)
    (hacc : evalPiece w acc σ = some (v, σ)) :
    ∃ u, evalPiece w (joined acc ps) σ = some (u, σ) ∧
      w.holds u = (w.holds v && allHold w fs σ) := by
  induction h generalizing acc v with
  | nil => exact ⟨v, hacc, (Bool.and_true _).symm⟩
  | @cons p f ps fs hp _ ih =>
    have hpresent : acc.isAbsent = false := by
      cases acc with
      | atom a => cases hacc
      | _ => rfl
    have hand := eval_and hacc (hp.eval σ)
    change ∃ u, evalPiece w (joined (if acc.isAbsent then p else binary "&&" acc p) ps) σ = _ ∧ _
    rw [hpresent, if_neg Bool.false_ne_true]
    cases hv : w.holds v with
    | true =>
      rw [hv, if_pos rfl] at hand
      obtain ⟨u, hu, hholds⟩ := ih hand
      exact ⟨u, hu, by rw [hholds, allHold, allHold, List.all_cons, Bool.true_and]⟩
    | false =>
      rw [hv, if_neg Bool.false_ne_true] at hand
      obtain ⟨u, hu, hholds⟩ := ih hand
      exact ⟨u, hu, by rw [hholds, hv, Bool.false_and, Bool.false_and]⟩

theorem allHold_congr {names : List String} {ps : List Piece} {fs : List (Store α → Value α)}
    (h : List.Forall₂ (Steady w names) ps fs) {σ τ : Store α} (hsame : ∀ x ∉ names, σ x = τ x) :
    allHold w fs σ = allHold w fs τ := by
  induction h with
  | nil => rfl
  | cons hp _ ih =>
    rw [allHold, allHold, List.all_cons, List.all_cons, hp.congr hsame]
    exact congrArg _ ih

namespace Counter

variable (c : Counter)

/-- The store of the loop before an element: the counters are set, so many results are there, and
all else is as before the loop. -/
structure At (σ : Store α) (vs us : List (Value α)) (j : Nat) (τ : Store α) : Prop where
  index : τ c.i = .nat j
  length : τ c.n = .nat vs.length
  values : τ c.v = .array vs
  results : τ c.r = .array us
  same : ∀ x ∉ c.names, τ x = σ x

variable {c} {σ τ : Store α} {vs us : List (Value α)} {j : Nat}

theorem ne_of_nodup : (c.i ≠ c.n ∧ c.i ≠ c.v ∧ c.i ≠ c.r) ∧ (c.n ≠ c.v ∧ c.n ≠ c.r) ∧ c.v ≠ c.r := by
  simpa using c.nodup

theorem pushed?_results : pushed? (dot c.results "push") = some c.r := by
  change (if identifier? (word "push") = some "push" then identifier? c.results else none) = _
  exact (if_pos rfl).trans c.results_eq

/-- Pushing takes the element itself. -/
theorem runs_push (h : c.At σ vs us j τ) {v : Value α} (hv : vs[j]? = some v) :
    Runs w (.one c.push) τ .normal (Function.update τ c.r (.array (us ++ [v]))) := by
  have hat : (τ c.v).at? (τ c.i) = some v := by
    rw [h.values, h.index]
    exact hv
  have helement : evalPiece w (Form.bracket c.values c.index).piece τ = some (v, τ) :=
    eval_bracket (eval_identifier c.values_eq) (eval_identifier c.index_eq) hat {}
  have hpush : (τ c.r).push? v = some (.array (us ++ [v])) := by
    rw [h.results]
    rfl
  have hargs : evalAll w [(Form.bracket c.values c.index).piece] τ = some ([v], τ) := by
    simp [evalAll, helement]
  exact .call (eval_push pushed?_results rfl hargs hpush rfl)

theorem At.pushed (h : c.At σ vs us j τ) (us' : List (Value α)) :
    c.At σ vs us' j (Function.update τ c.r (.array us')) := by
  obtain ⟨⟨-, -, hir⟩, ⟨-, hnr⟩, hvr⟩ := ne_of_nodup (c := c)
  refine ⟨?_, ?_, ?_, Function.update_self _ _ _, fun x hx => ?_⟩
  · rw [Function.update_of_ne hir, h.index]
  · rw [Function.update_of_ne hnr, h.length]
  · rw [Function.update_of_ne hvr, h.values]
  · have hxr : x ≠ c.r := fun e => hx (by simp [names, e])
    rw [Function.update_of_ne hxr, h.same x hx]

theorem At.next (h : c.At σ vs us j τ) : c.At σ vs us (j + 1) (Function.update τ c.i (.nat (j + 1))) := by
  obtain ⟨⟨hin, hiv, hir⟩, -⟩ := ne_of_nodup (c := c)
  refine ⟨Function.update_self _ _ _, ?_, ?_, ?_, fun x hx => ?_⟩
  · rw [Function.update_of_ne hin.symm, h.length]
  · rw [Function.update_of_ne hiv.symm, h.values]
  · rw [Function.update_of_ne hir.symm, h.results]
  · have hxi : x ≠ c.i := fun e => hx (by simp [names, e])
    rw [Function.update_of_ne hxi, h.same x hx]

theorem eval_test (h : c.At σ vs us j τ) :
    evalPiece w (binary "<" c.index c.length) τ = some (.bool (j < vs.length), τ) := by
  refine eval_less (eval_identifier c.index_eq) (eval_identifier c.length_eq) ?_
  rw [h.index, h.length]
  rfl

theorem eval_step (h : c.At σ vs us j τ) :
    evalStep w (some (Form.unary (text "++") c.index (.atom (.flag true))).piece) τ =
      some (Function.update τ c.i (.nat (j + 1))) := by
  have hnext : (τ c.i).next? = some (.nat (j + 1)) := by
    rw [h.index]
    rfl
  rw [evalStep]
  exact congrArg (Option.map Prod.snd) (eval_increment c.index_eq hnext {})

variable {conds : List Piece} {fs : List (Store α → Value α)}

/-- One round: the element is pushed if the conditions held before the loop. -/
theorem runs_body (hconds : List.Forall₂ (Steady w c.names) conds fs) (h : c.At σ vs us j τ)
    {v : Value α} (hv : vs[j]? = some v) : ∃ τ', Runs w (.one (c.body conds)) τ .normal τ' ∧
      c.At σ vs (if allHold w fs σ then us ++ [v] else us) j τ' := by
  have hpush := Runs.cons (runs_push (w := w) h hv) .nil
  have hafter := h.pushed (us ++ [v])
  cases hconds with
  | nil => exact ⟨_, .block rfl hpush, hafter⟩
  | @cons p f ps fs hp hps =>
    obtain ⟨u, hu, hholds⟩ := eval_joined hps (hp.eval τ)
    have hbefore : w.holds u = allHold w (f :: fs) σ := by
      rw [← allHold_congr (.cons hp hps) h.same]
      exact hholds
    cases hall : allHold w (f :: fs) σ with
    | true =>
      rw [hall] at hbefore
      refine ⟨_, .block rfl (.cons (.ifThen hu ?_) .nil), hafter⟩
      rw [hbefore]
      exact .cons (.block rfl hpush) .nil
    | false =>
      rw [hall] at hbefore
      refine ⟨τ, .block rfl (.cons (.ifThen hu ?_) .nil), h⟩
      rw [hbefore]
      exact .nil

/-- The rounds that are left push the elements that are left, or none. -/
theorem runs_loop (hconds : List.Forall₂ (Steady w c.names) conds fs) (k : Nat) (h : c.At σ vs us j τ)
    (hk : j + k = vs.length) :
    ∃ τ', Runs w (.loop (binary "<" c.index c.length)
        (some (Form.unary (text "++") c.index (.atom (.flag true))).piece) (c.body conds)) τ .normal τ' ∧
      c.At σ vs (if allHold w fs σ then us ++ vs.drop j else us) vs.length τ' := by
  induction k generalizing j us τ with
  | zero =>
    obtain rfl : j = vs.length := hk
    refine ⟨τ, .ended (eval_test h) (by simp [World.holds]), ?_⟩
    simpa using h
  | succ k ih =>
    have hj : j < vs.length := by omega
    obtain ⟨τ1, hbody, h1⟩ := runs_body hconds h (List.getElem?_eq_getElem hj)
    obtain ⟨τ2, hrest, h2⟩ := ih h1.next (by omega)
    refine ⟨τ2, .turn (eval_test h) (by simpa [World.holds] using hj) hbody rfl (eval_step h1) hrest, ?_⟩
    rw [List.drop_eq_getElem_cons hj]
    split_ifs at h2 ⊢
    · rw [List.append_assoc] at h2
      exact h2
    · exact h2

/-- The store in which the loop starts. -/
theorem at_start (σ : Store α) (vs : List (Value α)) : c.At σ vs [] 0
    (Function.update (Function.update (Function.update (Function.update σ c.v (.array vs)) c.r (.array []))
      c.i (.nat 0)) c.n (.nat vs.length)) := by
  obtain ⟨⟨hin, hiv, hir⟩, ⟨hnv, hnr⟩, hvr⟩ := ne_of_nodup (c := c)
  refine ⟨?_, Function.update_self _ _ _, ?_, ?_, fun x hx => ?_⟩
  · rw [Function.update_of_ne hin, Function.update_self]
  · rw [Function.update_of_ne hnv.symm, Function.update_of_ne hiv.symm, Function.update_of_ne hvr,
      Function.update_self]
  · rw [Function.update_of_ne hnr.symm, Function.update_of_ne hir.symm, Function.update_self]
  · simp only [names, List.mem_cons, List.not_mem_nil, or_false, not_or] at hx
    obtain ⟨hxi, hxn, hxv, hxr⟩ := hx
    rw [Function.update_of_ne hxn, Function.update_of_ne hxi, Function.update_of_ne hxr,
      Function.update_of_ne hxv]

/-- The function returns all the elements or none. -/
theorem runs_collecting (hconds : List.Forall₂ (Steady w c.names) conds fs) (vars : List Piece)
    {source : Piece} {σ σ0 : Store α} (hsource : evalPiece w source σ = some (.array vs, σ0)) :
    ∃ σ', Runs w (.all (c.collecting vars source conds)) σ
      (.returned (.array (if allHold w fs σ0 then vs else []))) σ' := by
  have hfill := eval_assign c.values_eq hsource {}
  have hempty (τ : Store α) : evalPiece w (Form.array (.items [])).piece τ = some (.array [], τ) :=
    eval_array rfl {}
  have hclear := eval_assign c.results_eq (hempty (Function.update σ0 c.v (.array vs))) {}
  have hzero (τ : Store α) : evalPiece w (leaf .number "0") τ = some (.nat 0, τ) := by
    have hnumber : w.numeral "0" = .inl 0 := numeral_toString 0
    rw [eval_numeral, hnumber]
    rfl
  have hindex := eval_assign c.index_eq (hzero (Function.update (Function.update σ0 c.v (.array vs))
    c.r (.array []))) {}
  have hlength := eval_assign c.length_eq (eval_length (eval_identifier c.values_eq) (w := w)
    (σ := Function.update (Function.update (Function.update σ0 c.v (.array vs)) c.r (.array []))
      c.i (.nat 0)) (v := .nat vs.length) ?_) {}
  · obtain ⟨τ, hloop, hend⟩ := runs_loop hconds vs.length (at_start σ0 vs) (Nat.zero_add _)
    have hresult := eval_identifier (w := w) (σ := τ) c.results_eq
    rw [hend.results, List.drop_zero, List.nil_append] at hresult
    exact ⟨τ, .cons .vars (.cons (.expression hfill) (.cons (.expression hclear)
      (.cons (.forLoop (eval_comma hindex hlength {}) hloop) (.stop (.returns hresult) nofun))))⟩
  · obtain ⟨⟨-, hiv, -⟩, -, hvr⟩ := ne_of_nodup (c := c)
    rw [Function.update_of_ne hiv.symm, Function.update_of_ne hvr, Function.update_self]
    rfl

end Counter

/-- A list is kept by taking from each element exactly if each element is what it gives. -/
theorem filterMap_eq_self_iff {β : Type} {f : β → Option β} {l : List β} :
    l.filterMap f = l ↔ ∀ a ∈ l, f a = some a := by
  induction l with
  | nil => simp
  | cons a l ih =>
    rw [List.filterMap_cons, List.forall_mem_cons]
    cases hf : f a with
    | none =>
      refine iff_of_false (fun h => ?_) fun h => by cases h.1
      have hlen := congrArg List.length h
      have hle := List.length_filterMap_le f l
      simp only [List.length_cons] at hlen
      omega
    | some b => simp [← ih]

/-- The comprehension means all the elements or none exactly if for each of them the conditions are as
they were before and, if they hold, its value is the element itself. -/
theorem comprehend_eq_iff {t : String} {fs : List (Store α → Value α)} {e : Store α → Value α}
    {σ : Store α} {vs : List (Value α)} :
    comprehend w t fs e σ vs = (if allHold w fs σ then vs else []) ↔
      ∀ v ∈ vs, allHold w fs (Function.update σ t v) = allHold w fs σ ∧
        (allHold w fs σ = true → e (Function.update σ t v) = v) := by
  unfold comprehend
  cases allHold w fs σ with
  | true =>
    rw [if_pos rfl, filterMap_eq_self_iff]
    refine forall₂_congr fun v _ => ?_
    simp
  | false =>
    rw [if_neg Bool.false_ne_true, List.filterMap_eq_nil_iff]
    refine forall₂_congr fun v _ => ?_
    simp

end

/-- A comprehension that can be written at all is the call of a function that loops over the array it is
given and pushes the elements themselves. Where the conditions have values that do not depend on the
names of the loop, it returns all elements or none; and it returns what the comprehension means, with
some element expression, exactly if for each element the conditions are with the target bound to it as
they are before and, if they hold, the element expression gives the element. -/
theorem comprehension_returns_iff {elt use iter isAsync : Tree} {t : String} {ifs : List Tree}
    {o : Options} {s s' : State} {p : Piece} (hs : Ready s)
    (h : run (visit (comprehensionTree elt t use iter ifs isAsync)) o s = (.ok p, s')) :
    ∃ (c : Counter) (params : Seq) (vars : List Piece) (source : Piece) (conds : List Piece),
      (∀ x ∈ c.names, ∃ k, IsTemporary k ∧ x = nameIn o k) ∧ Translates o iter source ∧
      List.Forall₂ (Translates o) ifs conds ∧
      p = callOf (Form.function .expr .absent params
        (Seq.ofPiece (block (c.collecting vars source conds)))).piece.inParens [] ∧
      ∀ (α : Type) (w : World α) (fs : List (Store α → Value α)) (σ σ0 : Store α)
        (vs : List (Value α)), List.Forall₂ (Steady w c.names) conds fs →
        evalPiece w source σ = some (.array vs, σ0) →
        (∃ σ', Runs w (.all (c.collecting vars source conds)) σ
          (.returned (.array (if allHold w fs σ0 then vs else []))) σ') ∧
        ∀ e : Store α → Value α, (∀ out σ', Runs w (.all (c.collecting vars source conds)) σ out σ' →
            out = .returned (.array (comprehend w (nameIn o t) fs e σ0 vs))) ↔
          ∀ v ∈ vs, allHold w fs (Function.update σ0 (nameIn o t) v) = allHold w fs σ0 ∧
            (allHold w fs σ0 = true → e (Function.update σ0 (nameIn o t) v) = v) := by
  obtain ⟨c, params, vars, source, conds, hnames, hsource, hconds, rfl⟩ := run_comprehension hs h
  refine ⟨c, params, vars, source, conds, hnames, hsource, hconds, rfl, ?_⟩
  intro α w fs σ σ0 vs hsteady hvalue
  obtain ⟨σ', hrun⟩ := Counter.runs_collecting hsteady vars hvalue
  refine ⟨⟨σ', hrun⟩, fun e => ?_⟩
  rw [← comprehend_eq_iff]
  constructor
  · intro hall
    have hout := hall _ _ hrun
    injection hout with harray
    injection harray with hlist
    exact hlist.symm
  · intro hlist out σ'' hrun'
    rw [hlist]
    exact (hrun'.det hrun).1

/-- `[x + 1 for x in y]` -/
def successors : Tree :=
  comprehensionTree (.node .binOp [nameNode "x", .node (.op .add) [], .node .num [.atom (.number "1")]])
    "x" (.node (.use .store) []) (nameNode "y") [] (.atom (.number "0"))

theorem successors_not_returned : Ready {} ∧ ∃ p s', run (visit successors) {} {} = (.ok p, s') ∧
    ∃ (c : Counter) (params : Seq) (vars : List Piece), p = callOf (Form.function .expr .absent params
      (Seq.ofPiece (block (c.collecting vars (word "y") [])))).piece.inParens [] ∧
      ∀ σ : Store Unit, σ "y" = .array [.nat 0] →
        (∃ σ', Runs bareWorld (.all (c.collecting vars (word "y") [])) σ
          (.returned (.array [.nat 0])) σ') ∧
        ¬ ∀ out σ', Runs bareWorld (.all (c.collecting vars (word "y") [])) σ out σ' →
          out = .returned (.array (comprehend bareWorld "x" []
            (fun τ => (τ "x").next?.getD (τ "x")) σ [.nat 0])) := by
  obtain ⟨p, s', hrun, -⟩ := exists_observed .listComp _ (fun _ => ()) (b := ())
    (by decide +kernel : (run (record .listComp
      [.node .binOp [nameNode "x", .node (.op .add) [], .node .num [.atom (.number "1")]],
        .list [.node .comprehension [.node .name [.text "x", .node (.use .store) []], nameNode "y",
          .list [], .atom (.number "0")]]]) {} {}).1.toOption.map (fun _ => ()) = some ())
  refine ⟨ready_start, p, s', hrun, ?_⟩
  obtain ⟨c, params, vars, source, conds, -, ⟨s1, s2, hs1, hsource⟩, hconds, hp, hall⟩ :=
    comprehension_returns_iff ready_start hrun
  cases hconds
  obtain rfl : source = word "y" := by
    obtain ⟨q, s3, hq, -, rfl⟩ := gives_name (o := {}) (n := "y") stable_true (by decide)
      (.use .load) s1 ⟨hs1, trivial, rfl⟩
    cases hsource.symm.trans hq
    rfl
  refine ⟨c, params, vars, hp, fun σ hσ => ?_⟩
  obtain ⟨hret, hiff⟩ := hall Unit bareWorld [] σ σ [.nat 0] .nil (by rw [eval_identifier rfl, hσ])
  refine ⟨hret, fun h => ?_⟩
  have hsame := ((hiff _).1 h (.nat 0) (List.mem_singleton_self _)).2 rfl
  cases hsame

end Transpile.Running
