import Transpile.Proofs.Provenance.Rules
import Transpile.Proofs.Success

/-! Walks over whole trees hand on what the tree and the state hold. -/

namespace Transpile.Walk

open Script Source

variable {σ : Supply}

theorem mem_put_entries {n : Int} {xs : List Piece} {es : List (Int × List Piece)}
    {e : Int × List Piece} (h : e ∈ Levels.put n xs es) : e = (n, xs) ∨ e ∈ es := by
  induction es with
  | nil => exact .inl (List.mem_singleton.1 h)
  | cons d es ih =>
    unfold Levels.put at h
    split_ifs at h
    · exact (List.mem_cons.1 h).imp_right (.tail _)
    · exact List.mem_cons.1 h
    · rcases List.mem_cons.1 h with rfl | h
      · exact .inr (.head _)
      · exact (ih h).imp_right (.tail _)

theorem Supply.Stocked.current {s : State} (hs : σ.Stocked s) : ∀ c ∈ s.levels.current, σ.Fine c := by
  intro c hc
  unfold Levels.current Levels.at? at hc
  cases h : s.levels.entries.lookup s.levels.level with
  | none => simp [h] at hc
  | some ps =>
    rw [h] at hc
    obtain ⟨before, after, hes, -⟩ := List.lookup_eq_some_iff.1 h
    exact hs.levels (s.levels.level, ps) (by simp [hes]) c hc

theorem Supply.Stocked.appendAll {s : State} (hs : σ.Stocked s) {ps : List Piece}
    (hps : ∀ p ∈ ps, σ.Fine p) : σ.Stocked { s with levels := s.levels.appendAll ps } := by
  refine ⟨fun e he p hp => ?_, hs.special, hs.maps, hs.imported⟩
  rcases mem_put_entries he with rfl | he
  · rcases List.mem_append.1 hp with hp | hp
    · exact hs.current p hp
    · exact hps p hp
  · exact hs.levels e he p hp

theorem hands_children : Hands σ (fun cs => ∀ c ∈ cs, σ.Fine c) children := by
  refine hands_bind (hands_modify fun s hs => hs.appendAll (by simp)) fun _ _ => ?_
  exact hands_bind hands_get fun s hs => hands_pure hs.current

theorem hands_collect {p : Piece} (hp : σ.Fine p) : Hands σ (fun _ => True) (collect p) :=
  hands_ite (hands_pure trivial) (hands_modify fun _ hs => hs.appendAll (fine_spliced hp))

theorem hands_enterNode (k : Kind) (ws : List Branch) :
    Hands σ (fun _ => True) (enterNode k ws) := by
  have hpush : Hands σ (fun _ => True) (if opensOperator k then pushOperator k else pure ()) :=
    hands_ite (hands_modify fun s hs => ⟨hs.levels, hs.special, hs.maps, hs.imported⟩)
      (hands_pure trivial)
  have hread : Hands σ (fun _ => True) (do
      deeper
      unless isReadable k ws do throw .missingAttribute
      if opensOperator k then pushOperator k) := by
    refine hands_bind (hands_modify fun s hs => ?_) fun _ _ => ?_
    · exact ⟨hs.levels, hs.special, hs.maps, hs.imported⟩
    · exact hands_ite hpush (hands_bind (P := fun _ => True) (hands_throw _) fun _ _ => hpush)
  refine hands_bind (hands_modify fun s hs => ?_) fun _ _ => hands_bind (hands_say _) fun _ _ => ?_
  · exact ⟨hs.levels, hs.special, hs.maps, hs.imported⟩
  · exact hands_ite (hands_bind hands_enterScope fun _ _ => hread) hread

theorem hands_leaveFields (k : Kind) : Hands σ (fun _ => True) (leaveFields popOperator k) := by
  have hshallower : Hands σ (fun _ => True) shallower :=
    hands_modify fun s hs => ⟨hs.levels, hs.special, hs.maps, hs.imported⟩
  refine hands_ite (hands_bind (P := fun _ => True) ?_ fun _ _ => hshallower) hshallower
  refine hands_bind hands_get fun s _ => hands_bind (hands_modify fun s hs => ?_) fun _ _ => ?_
  · exact ⟨hs.levels, hs.special, hs.maps, hs.imported⟩
  · rw [discard_eq]
    exact hands_bind (hands_need (Q := fun _ => True) fun _ _ => trivial) fun _ _ => hands_pure trivial

theorem hands_closeLevel : Hands σ (fun _ => True) closeLevel := by
  refine fun s hs => ⟨?_, fun a s' hr => ⟨trivial, ?_⟩⟩
  · cases h : s.levels.down.1 <;> simp only [closeLevel, run_bind, run_get, run_modify, h] <;> rfl
  · obtain ⟨_, _, hget, hr⟩ := run_bind_ok hr
    obtain ⟨_, _, hmodify, hr⟩ := run_bind_ok hr
    cases hget
    cases hmodify
    obtain ⟨-, rfl⟩ := run_need hr
    refine ⟨fun e he => hs.levels e ?_, hs.special, hs.maps, hs.imported⟩
    change e ∈ s.levels.down.2.entries at he
    unfold Levels.down at he
    split at he
    · exact he
    · exact (List.mem_filter.1 he).1

theorem hands_closeNode (k : Kind) {p : Piece} (hp : σ.Fine p) :
    Hands σ σ.Fine (closeNode closeLevel k p) :=
  hands_bind hands_children fun _ _ => hands_bind (hands_say _) fun _ _ =>
    hands_bind (hands_say _) fun _ _ => hands_bind hands_closeLevel fun _ _ =>
      hands_bind (hands_collect hp) fun _ _ => hands_pure hp

theorem hands_visitField {w : Branch} (hw : w.All (Hands σ σ.Fine)) :
    Hands σ (fun _ => True) (visitField w) := by
  have hd {v : Branch} (hv : v.All (Hands σ σ.Fine)) : Hands σ (fun _ => True) (discard v.again) := by
    rw [discard_eq]
    exact hands_bind hv.again fun _ _ => hands_pure trivial
  unfold visitField
  split
  · exact hd hw
  · exact hands_forM fun p hp => hands_ite (hd (hw.parts p hp)) (hands_pure trivial)
  · exact hands_pure trivial

theorem hands_visitNode {k : Kind} {ws : List Branch} (hw : ∀ w ∈ ws, w.All (Hands σ σ.Fine))
    (hrule : ∀ cs : List Piece, (∀ c ∈ cs, σ.Fine c) → Hands σ σ.Fine (rule k ws cs)) :
    Hands σ σ.Fine (visitNode k ws) := by
  rw [visitNode_eq]
  refine hands_bind (hands_enterNode k ws) fun _ _ => ?_
  refine hands_bind (hands_forM fun w hm => hands_visitField (hw w hm)) fun _ _ => ?_
  refine hands_bind (hands_leaveFields k) fun _ _ => hands_bind hands_children fun cs hcs => ?_
  exact hands_bind (hrule cs hcs) fun _ hp => hands_closeNode k hp

theorem hands_visitOther (t : Tree) : Hands σ σ.Fine (visitOther t) := by
  refine hands_bind (hands_modify fun s hs => ?_) fun _ _ => hands_bind (hands_say _) fun _ _ =>
    hands_bind (hands_modify fun s hs => ?_) fun _ _ => hands_throw _
  all_goals exact ⟨hs.levels, hs.special, hs.maps, hs.imported⟩

/-- A walk over a tree in which no class of a list is met makes pieces of what the tree and the state
hold, if the rules of the other classes do. -/
theorem hands_walk_of (ks : List Kind)
    (hrule : ∀ k ∉ ks, ∀ ws : List Branch, (∀ w ∈ ws, w.All (Hands σ σ.Fine)) →
      (∀ w ∈ ws, σ.Holds w.tree) → ∀ cs : List Piece, (∀ c ∈ cs, σ.Fine c) →
        Hands σ σ.Fine (rule k ws cs))
    {t : Tree} (hm : ∀ k ∈ ks, contains k t = false) (ht : σ.Holds t) :
    (walk t).All (Hands σ σ.Fine) := by
  have htrees {ts : List Tree} (hts : σ.Holds (.list ts)) : ∀ w ∈ walkAll ts, σ.Holds w.tree :=
    forall_walkAll fun t hmem => by
      rw [walk_tree]
      exact fun a ha => hts a (Tree.mem_atomsAll hmem ha)
  induction t using tree_induction with
  | missing => exact .mk (hands_throw _) (by simp)
  | atom a => exact .mk (hands_visitOther _) (by simp)
  | list ts ih =>
    refine .mk (hands_visitOther _) (forall_walkAll fun t hmem => ?_)
    exact ih t hmem (fun k hk => contains_of_mem (hm k hk) hmem) fun a ha =>
      ht a (Tree.mem_atomsAll hmem ha)
  | node k fs ih =>
    have hfs := fun k' hk' => Bool.or_eq_false_iff.1 (hm k' hk')
    have hk : k ∉ ks := fun hmem => of_decide_eq_false (hfs k hmem).1 rfl
    have hw := forall_walkAll fun t hmem => ih t hmem
      (fun k' hk' => contains_of_mem (hfs k' hk').2 hmem) fun a ha => ht a (Tree.mem_atomsAll hmem ha)
    exact .mk (hands_visitNode hw (hrule k hk _ hw (htrees ht))) hw

/-- The same for a tree without a program inside. -/
theorem hands_walk {t : Tree} (hm : contains .module t = false) (ht : σ.Holds t) :
    (walk t).All (Hands σ σ.Fine) :=
  hands_walk_of [.module] (fun _ hk _ hw hfs _ hcs => hands_rule (by simpa using hk) hw hfs hcs)
    (by simpa using hm) ht

end Transpile.Walk
