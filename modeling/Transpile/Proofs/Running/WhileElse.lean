import Transpile.Proofs.Blocks
import Transpile.Proofs.Running.Comprehension
import Transpile.Proofs.Running.Frame

/-! Loops with an else part. A flag is set before the loop, every turn clears it, and what stands after
the loop runs if the flag is still set. Main statement: the else part is run exactly if the loop made no
turn. It should be run exactly if the loop did not break off, so the loops that end by their test after
one turn or more are those that go wrong. -/

namespace Transpile.Running

open Source (Tree)
open Script Walk

/-- How a loop comes to its end: its test fails, or its body breaks off. -/
inductive Ending where
  | exhausted
  | broken
  deriving DecidableEq

/-- The loop makes so many turns, of which the last may break off, and comes to its end. -/
inductive Loops {α : Type} (w : World α) (test : Piece) (body : List Piece) :
    Nat → Ending → Store α → Store α → Prop where
  | exhausted {σ σ1 : Store α} {v : Value α} (value : evalPiece w test σ = some (v, σ1))
      (fails : w.holds v = false) : Loops w test body 0 .exhausted σ σ1
  | broken {σ σ1 σ2 : Store α} {v : Value α} (value : evalPiece w test σ = some (v, σ1))
      (holds : w.holds v = true) (inner : Runs w (.all body) σ1 .broken σ2) :
      Loops w test body 1 .broken σ σ2
  | turn {n : Nat} {e : Ending} {σ σ1 σ2 σ3 : Store α} {v : Value α} {out : Outcome α}
      (value : evalPiece w test σ = some (v, σ1)) (holds : w.holds v = true)
      (inner : Runs w (.all body) σ1 out σ2) (goesOn : out.goesOn = true)
      (again : Loops w test body n e σ2 σ3) : Loops w test body (n + 1) e σ σ3

/-- The statement that gives the flag a truth value. -/
def marked (flag : Piece) (b : String) : Piece := statement (assignTo "=" flag (leaf .boolean b))

/-- A loop whose turns clear a flag. -/
def flagging (flag test : Piece) (inner : List Piece) : List Piece :=
  [marked flag "true", (Form.whileDo test (block (marked flag "false" :: inner))).piece]

/-- A loop with an else part. -/
def flaggedLoop (flag test : Piece) (inner last : List Piece) : List Piece :=
  flagging flag test inner ++ [(Form.ifThen flag (block last) .absent).piece]

section

variable {α : Type} {w : World α} {σ σ1 σ2 : Store α} {out : Outcome α}

/-- The last statement is a condition, and it holds when the others have come to their end. -/
def RunsElse (w : World α) (ps : List Piece) (σ : Store α) : Prop :=
  ∃ before test yes no m σ1 v σ2, ps = before ++ [.node (.ifThen test yes no) m] ∧
    Runs w (.all before) σ .normal σ1 ∧ evalPiece w test σ1 = some (v, σ2) ∧ w.holds v = true

/-! Runs of loops -/

/-- The turns of a loop, from how it runs. -/
theorem exists_loops {k : Work} (h : Runs w k σ out σ1) {test : Piece} {body : List Piece}
    (hk : k = .loop test none (block body)) (hout : out = .normal) :
    ∃ n e, Loops w test body n e σ σ1 := by
  induction h with
  | ended value fails =>
    cases hk
    exact ⟨0, .exhausted, .exhausted value fails⟩
  | turn value holds inner goesOn stepped _ _ ih =>
    cases hk
    cases stepped
    obtain ⟨n, e, hloops⟩ := ih rfl hout
    cases inner with
    | block parts inner =>
      cases parts
      exact ⟨n + 1, e, .turn value holds inner goesOn hloops⟩
  | @exit _ _ _ _ _ _ _ out value holds inner leaves _ =>
    cases hk
    cases inner with
    | block parts inner =>
      cases parts
      cases out with
      | broken => exact ⟨1, .broken, .broken value holds inner⟩
      | returned v => cases hout
      | normal => cases leaves
      | continued => cases leaves
  | _ => cases hk

theorem Loops.runs {test : Piece} {body : List Piece} {n : Nat} {e : Ending}
    (h : Loops w test body n e σ σ1) : Runs w (.loop test none (block body)) σ .normal σ1 := by
  induction h with
  | exhausted value fails => exact .ended value fails
  | broken value holds inner => exact .exit value holds (.block rfl inner) rfl
  | turn value holds inner goesOn _ ih => exact .turn value holds (.block rfl inner) goesOn rfl ih

/-- A loop runs to its end by some number of turns. -/
theorem runs_while_iff {test : Piece} {body : List Piece} :
    Runs w (.one (Form.whileDo test (block body)).piece) σ .normal σ1 ↔
      ∃ n e, Loops w test body n e σ σ1 := by
  constructor
  · intro h
    cases h with
    | whileDo inner => exact exists_loops inner rfl rfl
  · rintro ⟨n, e, h⟩
    exact .whileDo h.runs

theorem Loops.exhausted_of_zero {test : Piece} {body : List Piece} {n : Nat} {e : Ending}
    (h : Loops w test body n e σ σ1) (hn : n = 0) : e = .exhausted := by
  cases h with
  | exhausted => rfl
  | broken => cases hn
  | turn => cases hn

/-! The flag -/

variable {flag : Piece} {x : String}

theorem runs_marked (hflag : identifier? flag = some x) (b : String) :
    Runs w (.one (marked flag b)) σ .normal (Function.update σ x (.bool (b = "true"))) :=
  .expression (eval_assign hflag rfl {})

/-- A turn clears the flag, whatever it was, and goes on as it would. -/
theorem runs_turn (hw : w.Spares x) (hflag : identifier? flag = some x) {inner : List Piece}
    (hinner : ∀ q ∈ inner, Avoids x q) (h : Runs w (.all inner) σ out σ1) (b : Value α) :
    Runs w (.one (block (marked flag "false" :: inner))) (Function.update σ x b) out
      (Function.update σ1 x (.bool false)) := by
  have hclear := runs_marked (w := w) (σ := Function.update σ x b) hflag "false"
  rw [Function.update_idem] at hclear
  exact .block rfl (.cons hclear (h.update hw hinner _))

/-- The loop with the flag makes the same turns, and the flag stays as it was if there are none. -/
theorem Loops.flagged (hw : w.Spares x) (hflag : identifier? flag = some x) {test : Piece}
    {inner : List Piece} (htest : Avoids x test) (hinner : ∀ q ∈ inner, Avoids x q) {n : Nat}
    {e : Ending} (h : Loops w test inner n e σ σ1) (b : Value α) :
    Runs w (.loop test none (block (marked flag "false" :: inner))) (Function.update σ x b) .normal
      (Function.update σ1 x (if n = 0 then b else .bool false)) := by
  induction h generalizing b with
  | exhausted value fails => exact .ended (eval_update hw htest value b) fails
  | broken value holds body =>
    exact .exit (eval_update hw htest value b) holds (runs_turn hw hflag hinner body b) rfl
  | @turn n _ _ _ _ _ _ _ value holds body goesOn _ ih =>
    have hrest := ih (.bool false)
    rw [ite_self] at hrest
    rw [if_neg n.succ_ne_zero]
    exact .turn (eval_update hw htest value b) holds (runs_turn hw hflag hinner body b) goesOn rfl hrest

/-- After a statement that comes to its end the others run from where it ended. -/
theorem runs_cons_iff {p : Piece} {ps : List Piece} (h : Runs w (.one p) σ .normal σ1) :
    Runs w (.all (p :: ps)) σ out σ2 ↔ Runs w (.all ps) σ1 out σ2 := by
  constructor
  · intro hall
    cases hall with
    | cons first rest =>
      obtain ⟨-, rfl⟩ := h.det first
      exact rest
    | stop first early => exact absurd (h.det first).1.symm early
  · exact .cons h

theorem runs_append_iff {ps qs : List Piece} (h : Runs w (.all ps) σ .normal σ1) :
    Runs w (.all (ps ++ qs)) σ out σ2 ↔ Runs w (.all qs) σ1 out σ2 := by
  induction ps generalizing σ with
  | nil =>
    cases h
    rfl
  | cons p ps ih =>
    cases h with
    | cons first rest => rw [List.cons_append, runs_cons_iff first, ih rest]
    | stop first early => exact absurd rfl early

theorem runs_single_iff {p : Piece} : Runs w (.all [p]) σ out σ1 ↔ Runs w (.one p) σ out σ1 := by
  constructor
  · intro h
    cases h with
    | cons first rest =>
      cases rest
      exact first
    | stop first _ => exact first
  · intro h
    by_cases hout : out = .normal
    · subst hout
      exact .cons h .nil
    · exact .stop h hout

theorem runs_if_iff {test yes no : Piece} {m : Marks} {v : Value α}
    (h : evalPiece w test σ = some (v, σ1)) :
    Runs w (.one (.node (.ifThen test yes no) m)) σ out σ2 ↔
      Runs w (.all (chosen (w.holds v) yes no)) σ1 out σ2 := by
  constructor
  · intro hif
    cases hif with
    | ifThen value inner =>
      obtain ⟨rfl, rfl⟩ := eval_unique h value
      exact inner
  · exact .ifThen h

section

variable {test : Piece} {inner : List Piece} {n : Nat} {e : Ending}

/-- The flag is set after the loop exactly if there was no turn. -/
theorem Loops.runs_before (hw : w.Spares x) (hflag : identifier? flag = some x)
    (htest : Avoids x test) (hinner : ∀ q ∈ inner, Avoids x q) (h : Loops w test inner n e σ σ1) :
    Runs w (.all (flagging flag test inner)) σ .normal (Function.update σ1 x (.bool (n = 0))) := by
  have hloop := h.flagged hw hflag htest hinner (.bool true)
  have hvalue : (if n = 0 then Value.bool true else .bool false : Value α) = .bool (n = 0) := by
    by_cases hn : n = 0 <;> simp [hn]
  rw [hvalue] at hloop
  exact .cons (runs_marked hflag "true") (.cons (.whileDo hloop) .nil)

theorem eval_flag (hflag : identifier? flag = some x) (v : Value α) :
    evalPiece w flag (Function.update σ x v) = some (v, Function.update σ x v) := by
  rw [eval_identifier hflag, Function.update_self]

/-- What is written for a loop with an else part does what the loop does, and then runs the else part
exactly if there was no turn. -/
theorem Loops.runs_flaggedLoop (hw : w.Spares x) (hflag : identifier? flag = some x)
    (htest : Avoids x test) (hinner : ∀ q ∈ inner, Avoids x q) (h : Loops w test inner n e σ σ1)
    {last : List Piece} : Runs w (.all (flaggedLoop flag test inner last)) σ out σ2 ↔
      Runs w (.all (if n = 0 then [block last] else [])) (Function.update σ1 x (.bool (n = 0))) out σ2 := by
  have hchosen : chosen (w.holds (.bool (n = 0))) (block last) .absent =
      if n = 0 then [block last] else [] := by
    by_cases hn : n = 0 <;> simp [hn, chosen, World.holds, Piece.isAbsent]
  rw [flaggedLoop, runs_append_iff (h.runs_before hw hflag htest hinner), runs_single_iff,
    ← hchosen]
  exact runs_if_iff (eval_flag hflag _)

theorem Loops.runsElse_iff (hw : w.Spares x) (hflag : identifier? flag = some x)
    (htest : Avoids x test) (hinner : ∀ q ∈ inner, Avoids x q) (h : Loops w test inner n e σ σ1)
    (last : List Piece) : RunsElse w (flaggedLoop flag test inner last) σ ↔ n = 0 := by
  have hbefore := h.runs_before hw hflag htest hinner
  constructor
  · rintro ⟨before, flag', yes, no, m, τ, v, τ', hps, hruns, hvalue, hholds⟩
    obtain ⟨rfl, hlast⟩ := List.append_inj' hps rfl
    cases hlast
    obtain ⟨-, rfl⟩ := hbefore.det hruns
    obtain ⟨rfl, -⟩ := eval_unique (eval_flag hflag _) hvalue
    simpa [World.holds] using hholds
  · intro hn
    exact ⟨_, flag, _, _, _, _, _, _, rfl, hbefore, eval_flag hflag _, by simp [World.holds, hn]⟩

end

end

/-! The walk -/

section

variable {o : Options} {s s' : State}

theorem run_whileRule {body orelse : List Tree} (hne : orelse ≠ []) {cs : List Piece} {p : Piece}
    (h : run (whileRule (.list body) (.list orelse) cs) o s = (.ok p, s')) :
    ∃ k flag test rest, cs = test :: rest ∧
      identifier? flag = some (nameIn o (Scope.numbered "ref" k)) ∧
      p = splice (flaggedLoop flag test (rest.take body.length) (rest.drop body.length)) := by
  have htrue : Tree.isTruthy (.list orelse) = true := by simpa [Tree.isTruthy] using hne
  obtain ⟨test, s1, htest, h⟩ := run_bind_ok h
  obtain ⟨rest, rfl⟩ := results_child_zero cs _ _ _ htest
  obtain ⟨_, _, hsize, h⟩ := run_bind_ok h
  cases hsize
  obtain ⟨_, _, hgiven, h⟩ := run_bind_ok h
  cases hgiven
  rw [if_pos htrue] at h
  obtain ⟨flag, s2, hflag, h⟩ := run_bind_ok h
  cases h
  obtain ⟨k, hk⟩ := run_fresh_ident hflag
  exact ⟨k, flag, test, rest, rfl, hk, rfl⟩

theorem spliced_flaggedLoop (flag test : Piece) (inner last : List Piece) :
    spliced (splice (flaggedLoop flag test inner last)) = flaggedLoop flag test inner last := rfl

/-- A loop with an else part. Where neither its test nor its body mentions the flag, it runs as the loop
does, and runs the else part exactly if the loop made no turn; so that it does this exactly if the loop
did not break off for those runs only that make no turn or break off. -/
theorem else_runs_iff {test : Tree} {body orelse : List Tree} (hne : orelse ≠ []) {p : Piece}
    (hs : Ready s)
    (h : run (visit (.node .whileStmt [test, .list body, .list orelse])) o s = (.ok p, s')) :
    ∃ ts bs es k flag q inner last,
      run (record .whileStmt [test, .list body, .list orelse]) o s =
        (.ok (.mk (.node .whileStmt [test, .list body, .list orelse]) p [ts, bs, es]), s') ∧
      q :: (inner ++ last) = nodesOf ts ++ (nodesOf bs ++ nodesOf es) ∧
      ((nodesOf ts).length = 1 → (nodesOf bs).length = body.length →
        inner = nodesOf bs ∧ last = nodesOf es) ∧
      identifier? flag = some (nameIn o (Scope.numbered "ref" k)) ∧
      spliced p = flaggedLoop flag q inner last ∧
      ∀ (α : Type) (w : World α),
        (∀ σ σ1, Runs w (.one (Form.whileDo q (block inner)).piece) σ .normal σ1 ↔
          ∃ n e, Loops w q inner n e σ σ1) ∧
        (w.Spares (nameIn o (Scope.numbered "ref" k)) →
        Avoids (nameIn o (Scope.numbered "ref" k)) q →
        (∀ r ∈ inner, Avoids (nameIn o (Scope.numbered "ref" k)) r) →
        ∀ n e σ σ1, Loops w q inner n e σ σ1 →
          (∀ out σ2, Runs w (.all (spliced p)) σ out σ2 ↔
            Runs w (.all (if n = 0 then [block last] else []))
              (Function.update σ1 (nameIn o (Scope.numbered "ref" k)) (.bool (n = 0))) out σ2) ∧
          (RunsElse w (spliced p) σ ↔ n = 0) ∧
          ((RunsElse w (spliced p) σ ↔ e ≠ .broken) ↔ n = 0 ∨ e = .broken)) := by
  obtain ⟨rss, hrec, hfields, s1, s2, hrule⟩ := exists_recorded rfl hs h
  simp only [List.forall₂_cons_left_iff, List.forall₂_nil_left_iff] at hfields
  obtain ⟨ts, _, -, ⟨bs, _, -, ⟨es, _, -, rfl, rfl⟩, rfl⟩, rfl⟩ := hfields
  obtain ⟨k, flag, q, rest, hcs, hflag, rfl⟩ := run_whileRule hne hrule
  have hparts : nodesOf ts ++ (nodesOf bs ++ nodesOf es) = q :: rest := by simpa using hcs
  refine ⟨ts, bs, es, k, flag, q, _, _, hrec, ?_, fun hts hbs => ?_, hflag, rfl, ?_⟩
  · rw [List.take_append_drop, hparts]
  · obtain ⟨q', hq'⟩ := List.length_eq_one_iff.1 hts
    rw [hq'] at hparts
    have hrest : nodesOf bs ++ nodesOf es = rest := (List.cons.inj hparts).2
    rw [← hrest, ← hbs, List.take_left, List.drop_left]
    exact ⟨rfl, rfl⟩
  · refine fun α w => ⟨fun σ σ1 => runs_while_iff, fun hw hq hinner n e σ σ1 hloops => ?_⟩
    have helse := hloops.runsElse_iff hw hflag hq hinner (rest.drop body.length)
    refine ⟨fun out σ2 => hloops.runs_flaggedLoop hw hflag hq hinner, helse, ?_⟩
    rw [spliced_flaggedLoop, helse]
    have hzero := hloops.exhausted_of_zero
    cases e with
    | exhausted => simp
    | broken =>
      have hn : n ≠ 0 := fun hn => by cases hzero hn
      simp [hn]

/-- A loop that takes its test from another name, with an else part. -/
def oneTurn : List Tree :=
  [nameNode "a", .list [.node .assign [.list [.node .name [.text "a", .node (.use .store) []]],
    nameNode "b"]], .list [nameStatement "c"]]

/-- The flag, the test, the target and the value of a flagged loop over an assignment. -/
def turnNames : List Piece → List (Option String)
  | [_, .node (.whileDo q (.node (.group .block (.items [_,
      .node (.exprStatement (.node (.assign (.text "=") l r) _)) _])) _)) _,
      .node (.ifThen flag _ _) _] =>
    [identifier? flag, identifier? q, identifier? l, identifier? r]
  | _ => []

theorem exists_of_turnNames {flag q : Piece} {inner last : List Piece} {f a b c : Option String}
    (h : turnNames (flaggedLoop flag q inner last) = [f, a, b, c]) :
    identifier? flag = f ∧ identifier? q = a ∧ ∃ l r m m',
      inner = [.node (.exprStatement (.node (.assign (.text "=") l r) m)) m'] ∧
      identifier? l = b ∧ identifier? r = c := by
  unfold turnNames at h
  split at h
  · next heq =>
    cases heq
    cases h
    exact ⟨rfl, rfl, _, _, _, _, rfl, rfl, rfl⟩
  · cases h

theorem oneTurn_skips_else : ∃ p s', run (visit (.node .whileStmt oneTurn)) {} {} = (.ok p, s') ∧
    ∃ q inner, ∀ σ : Store Unit, σ "a" = .bool true → σ "b" = .bool false →
      Loops bareWorld q inner 1 .exhausted σ (Function.update σ "a" (.bool false)) ∧
      ¬ RunsElse bareWorld (spliced p) σ := by
  obtain ⟨p, s', hrun, hnames⟩ := exists_observed .whileStmt oneTurn
    (fun r => turnNames (spliced r.result)) (b := [some "ref_0", some "a", some "a", some "b"])
    (by decide +kernel)
  obtain ⟨ts, bs, es, k, flag, q, inner, last, hrec, -, -, hflag, hp, hall⟩ :=
    else_runs_iff (by simp) ready_start hrun
  have hseen := hnames _ hrec
  rw [Record.result_mk, hp] at hseen
  obtain ⟨href, hq, l, r, m, m', rfl, hl, hr⟩ := exists_of_turnNames hseen
  obtain hname : nameIn {} (Scope.numbered "ref" k) = "ref_0" :=
    Option.some.inj (hflag.symm.trans href)
  rw [hname] at hall
  have havoids : Avoids "ref_0" (.node (.exprStatement (.node (.assign (.text "=") l r) m)) m') := by
    have hparts : ∀ z ∈ (Form.assign (.text "=") l r).pieces, Avoids "ref_0" z := by
      simp only [Form.pieces, List.mem_cons, List.not_mem_nil, or_false, forall_eq_or_imp, forall_eq]
      exact ⟨.atom trivial, avoids_identifier hl (by decide), avoids_identifier hr (by decide)⟩
    refine Avoids.node_iff.2 ⟨by simp, fun z hz => ?_⟩
    rw [List.mem_singleton.1 hz]
    exact Avoids.node_iff.2 ⟨by simp, hparts⟩
  refine ⟨p, s', hrun, q, [.node (.exprStatement (.node (.assign (.text "=") l r) m)) m'],
    fun σ ha hb => ?_⟩
  have hloops : Loops bareWorld q [.node (.exprStatement (.node (.assign (.text "=") l r) m)) m'] 1
      .exhausted σ (Function.update σ "a" (.bool false)) := by
    have htest (τ : Store Unit) : evalPiece bareWorld q τ = some (τ "a", τ) := eval_identifier hq
    have hvalue : evalPiece bareWorld r σ = some (.bool false, σ) := by
      rw [eval_identifier hr, hb]
    refine .turn (htest σ) (by rw [ha]; rfl) (.cons (.expression (eval_assign hl hvalue m)) .nil) rfl
      (.exhausted (htest _) ?_)
    rw [Function.update_self]
    rfl
  refine ⟨hloops, ?_⟩
  rw [((hall Unit bareWorld).2 (bareWorld_spares _) (avoids_identifier hq (by decide))
    (by simpa using havoids) _ _ _ _ hloops).2.1]
  exact Nat.one_ne_zero

end

end Transpile.Running
