import Transpile.Proofs.Blocks
import Transpile.Proofs.Naming.Surface

/-! Targets of assignments: the names that stand in a target are those to which its piece can be
assigned. -/

namespace Transpile.Walk

open Script Source

mutual

/-- The names that stand in a target, by themselves or in a list. -/
def spelled : Tree → List String
  | .node .name (.text n :: _) => [n]
  | .node .list fs | .node .tuple fs => spelledAll fs
  | .list ts => spelledAll ts
  | _ => []

def spelledAll : List Tree → List String
  | [] => []
  | t :: ts => spelled t ++ spelledAll ts

end

mutual

/-- Whether a tree has the classes that targets are made of. -/
def isTarget : Tree → Bool
  | .node .name _ | .node .attr _ | .node .subscript _ | .node .starred _ | .node (.use _) _ => true
  | .node .list fs | .node .tuple fs => areTargets fs
  | .list ts => areTargets ts
  | .atom _ | .missing => true
  | _ => false

def areTargets : List Tree → Bool
  | [] => true
  | t :: ts => isTarget t && areTargets ts

end

/-- Whether a tree gives exactly one piece. -/
def isSingle : Tree → Bool
  | .node .name [_, _] | .node .attr [_, _, _] | .node .subscript [_, _, _] | .node .call [_, _, _]
  | .node .list _ | .node .tuple _ => true
  | _ => false

theorem areTargets_iff {ts : List Tree} : areTargets ts = true ↔ ∀ t ∈ ts, isTarget t = true := by
  induction ts with
  | nil => simp [areTargets]
  | cons t ts ih => simp [areTargets, ih]

theorem mem_spelledAll {ts : List Tree} {t : Tree} {n : String} (ht : t ∈ ts) (hn : n ∈ spelled t) :
    n ∈ spelledAll ts := by
  induction ts with
  | nil => cases ht
  | cons u ts ih =>
    rcases List.mem_cons.1 ht with rfl | ht
    · exact List.mem_append_left _ hn
    · exact List.mem_append_right _ (ih ht)

/-! The pieces of targets -/

/-- A form to which no name belongs. -/
structure IsNameless (p : Piece) : Prop where
  form : IsForm p
  unnamed : ∀ n, ¬ Names n p

theorem isNameless_dot (l r : Piece) : IsNameless (Form.dot l r).piece :=
  ⟨isForm_piece (by simp), by rintro n ⟨⟩⟩

theorem isNameless_bracket (l r : Piece) : IsNameless (Form.bracket l r).piece :=
  ⟨isForm_piece (by simp), by rintro n ⟨⟩⟩

theorem isNameless_callOf (f : Piece) (ps : List Piece) : IsNameless (callOf f ps) :=
  ⟨isForm_piece (by simp), by rintro n ⟨⟩⟩

section

variable {o : Options} {s s' : State}

theorem nameless_attributeRule (name : Tree) (cs : List Piece) :
    Results o IsNameless (attributeRule name cs) :=
  results_bind fun _ => results_bind fun _ => results_bind fun _ => results_pure (isNameless_dot _ _)

theorem nameless_callRule (func : Tree) (cs : List Piece) : Results o IsNameless (callRule func cs) := by
  refine results_bind fun t => ?_
  split <;> exact results_bind fun _ => results_pure (isNameless_callOf _ _)

theorem nameless_subscriptRule (slice : Branch) (cs : List Piece) :
    Results o IsNameless (subscriptRule slice cs) := by
  refine results_bind fun target => results_bind fun t => ?_
  split
  · next lower upper step _ =>
    have rest (low : Piece) : Results o IsNameless (do
        let high ← if upper.tree.isTruthy then do pure [← upper.again] else pure []
        return callOf (dot target "slice") (low :: high)) :=
      results_ite (results_bind fun _ => results_pure (isNameless_callOf _ _))
        (results_pure (isNameless_callOf _ _))
    exact results_guard (results_ite (results_bind rest) (rest _))
  · exact results_bind fun _ => results_pure (isNameless_bracket _ _)

theorem names_sourceName {key id : Piece} {n : String} (h : run (sourceName key) o s = (.ok id, s'))
    (hn : Names n id) : ∃ m, key = .text m ∧ n = nameIn o m := by
  unfold sourceName at h
  rw [run_bind_of_ok run_read] at h
  unfold nameIn
  split_ifs at h ⊢
  · split at h
    · next m =>
      cases h
      cases hn
      exact ⟨m, rfl, rfl⟩
    · cases h
  · cases h
    cases hn with
    | ident => exact ⟨n, rfl, rfl⟩

theorem run_atomField_text {t : Tree} {m : String} (h : run (atomField t) o s = (.ok (.text m), s')) :
    t = .text m := by
  unfold atomField at h
  split at h
  all_goals cases h
  rfl

theorem names_nameRule {id : Tree} {p : Piece} {n : String} (h : run (nameRule id) o s = (.ok p, s'))
    (hn : Names n p) : isIdentifier p = true ∧ ∃ m, id = .text m ∧ n = nameIn o m := by
  obtain ⟨key, s1, hkey, h⟩ := run_bind_ok h
  split at h
  · cases h
    cases hn
  · cases h
    cases hn
  · cases h
    cases hn
  · obtain ⟨v, rfl⟩ := results_sourceName _ s1 p s' h
    obtain ⟨m, rfl, hm⟩ := names_sourceName h hn
    exact ⟨rfl, m, run_atomField_text hkey, hm⟩

/-! A node without its fields gives nothing. -/

theorem run_nameNode {fs : List Tree} {cs : List Piece} {p : Piece}
    (h : run (rule .name (walkAll fs) cs) o s = (.ok p, s')) :
    p = .absent ∨ ∃ id use, fs = [id, use] ∧ run (nameRule id) o s = (.ok p, s') := by
  rw [rule_walkAll rfl] at h
  match fs with
  | [id, use] => exact .inr ⟨id, use, rfl, h⟩
  | [] | [_] | _ :: _ :: _ :: _ =>
    cases h
    exact .inl rfl

theorem nameless_attr (fs : List Tree) (cs : List Piece) :
    Results o (fun p => p = .absent ∨ IsNameless p) (rule .attr (walkAll fs) cs) := by
  rw [rule_walkAll rfl]
  match fs with
  | [_, name, _] => exact (nameless_attributeRule name cs).imp fun _ => .inr
  | [] | [_] | [_, _] | _ :: _ :: _ :: _ :: _ => exact results_pure (.inl rfl)

theorem nameless_subscript (fs : List Tree) (cs : List Piece) :
    Results o (fun p => p = .absent ∨ IsNameless p) (rule .subscript (walkAll fs) cs) := by
  match fs with
  | [_, slice, _] => exact (nameless_subscriptRule (walk slice) cs).imp fun _ => .inr
  | [] | [_] | [_, _] | _ :: _ :: _ :: _ :: _ => exact results_pure (.inl rfl)

/-- A name gives its identifier. -/
theorem names_recorded_name {fs : List Tree} {rs : List Record} (h : Recorded o (.node .name fs) rs)
    {c : Piece} (hc : c ∈ nodesOf rs) {n : String} (hn : Names n c) :
    isIdentifier c = true ∧ ∃ m ∈ spelled (.node .name fs), n = nameIn o m := by
  obtain ⟨p, rss, rfl, -, s, s', hrule⟩ := recorded_node h
  rw [nodesOf_cons, nodesOf_nil, List.append_nil, Record.result_mk] at hc
  rcases run_nameNode hrule with rfl | ⟨id, use, rfl, hname⟩
  · cases hc
  · rw [(node_nameRule id s p s' hname).spliced, List.mem_singleton] at hc
    subst hc
    obtain ⟨hident, m, rfl, hm⟩ := names_nameRule hname hn
    exact ⟨hident, m, List.mem_singleton_self m, hm⟩

/-- Only the names that stand in a target can be written to through its pieces. -/
theorem names_recorded {t : Tree} (ht : isTarget t = true) {rs : List Record} (h : Recorded o t rs)
    {c : Piece} (hc : c ∈ nodesOf rs) {n : String} (hn : Names n c) :
    ∃ m ∈ spelled t, n = nameIn o m := by
  induction t using tree_induction generalizing rs c with
  | missing =>
    obtain ⟨s, s', -, h⟩ := h
    cases h
    cases hc
  | atom a =>
    obtain ⟨s, s', -, h⟩ := h
    cases h
    cases hc
  | list ts ih =>
    obtain ⟨r, hr, hc⟩ := List.mem_flatMap.1 hc
    obtain ⟨t, ht', h⟩ := forall₂_right (recorded_list h) hr
    have hmem := (List.mem_filter.1 ht').1
    obtain ⟨m, hm, hn⟩ := ih t hmem (areTargets_iff.1 ht t hmem) h (by simpa using hc) hn
    exact ⟨m, mem_spelledAll hmem hm, hn⟩
  | node k fs ih =>
    obtain ⟨p, rss, rfl, hfields, s, s', hrule⟩ := recorded_node h
    rw [nodesOf_cons, nodesOf_nil, List.append_nil, Record.result_mk] at hc
    have hchild {c : Piece} (hc : c ∈ nodesOf rss.flatten) (hn : Names n c)
        (hall : areTargets fs = true) : ∃ m ∈ spelledAll fs, n = nameIn o m := by
      obtain ⟨r, hr, hc⟩ := List.mem_flatMap.1 hc
      obtain ⟨rs, hrs, hr⟩ := List.mem_flatten.1 hr
      obtain ⟨t, ht', h⟩ := forall₂_right hfields hrs
      obtain ⟨m, hm, hn⟩ := ih t ht' (areTargets_iff.1 hall t ht') h
        (List.mem_flatMap.2 ⟨r, hr, hc⟩) hn
      exact ⟨m, mem_spelledAll ht' hm, hn⟩
    have harray (hr : run (arrayRule (nodesOf rss.flatten)) o s = (.ok p, s'))
        (hall : areTargets fs = true) : ∃ m ∈ spelledAll fs, n = nameIn o m := by
      cases hr
      obtain rfl := List.mem_singleton.1 hc
      cases hn with
      | element hq hn => exact hchild hq hn hall
    have hnameless (hp : p = .absent ∨ IsNameless p) : False := by
      rcases hp with rfl | hp
      · cases hc
      · rw [hp.form.spliced, List.mem_singleton] at hc
        exact hp.unnamed n (hc ▸ hn)
    cases k <;> first | exact absurd ht Bool.false_ne_true | skip
    case name => exact (names_recorded_name h (by simpa using hc) hn).2
    case attr => exact (hnameless (nameless_attr fs _ s p s' hrule)).elim
    case subscript => exact (hnameless (nameless_subscript fs _ s p s' hrule)).elim
    case list => exact harray hrule ht
    case tuple => exact harray hrule ht
    case starred =>
      rw [rule_walkAll rfl] at hrule
      cases hrule
      cases hc
    case use u =>
      rw [rule_walkAll rfl] at hrule
      cases hrule
      cases hc

theorem single_recorded {t : Tree} (ht : isSingle t = true) {rs : List Record} (h : Recorded o t rs) :
    ∃ c, nodesOf rs = [c] := by
  have hform {k : Kind} {fs : List Tree} {rs : List Record} (h : Recorded o (.node k fs) rs)
      (hk : ∀ cs, Results o IsForm (rule k (walkAll fs) cs)) : ∃ c, nodesOf rs = [c] := by
    obtain ⟨p, rss, rfl, -, s, s', hrule⟩ := recorded_node h
    exact ⟨p, by simp [(hk _ s p s' hrule).spliced]⟩
  have hnameless {w : Walker Piece} (hw : Results o IsNameless w) : Results o IsForm w :=
    hw.imp fun _ => IsNameless.form
  unfold isSingle at ht
  split at ht
  · exact hform h fun cs => node_nameRule _
  · exact hform h fun cs => hnameless (nameless_attributeRule _ cs)
  · exact hform h fun cs => hnameless (nameless_subscriptRule _ cs)
  · exact hform h fun cs => hnameless (nameless_callRule _ cs)
  · exact hform h fun cs => results_pure (isForm_piece (by simp))
  · exact hform h fun cs => results_pure (isForm_piece (by simp))
  · cases ht

end

end Transpile.Walk
