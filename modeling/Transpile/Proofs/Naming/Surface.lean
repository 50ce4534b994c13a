import Transpile.Proofs.Naming.Assigned
import Transpile.Proofs.Temporaries.Apart

/-! What the pieces of a walk assign to. The names that are allowed may grow with the scope; a walk
keeps to them if the rules of the classes that make assignments do, as far as they stand in no function
and in no class. -/

namespace Transpile.Walk

open Script Source

/-! The nodes of a program outside of functions and classes -/

mutual

/-- The nodes that stand in no function and in no class. -/
def surface : Tree → List (Kind × List Tree)
  | .node k fs => (k, fs) :: if k = .functionDef ∨ k = .classDef then [] else surfaceAll fs
  | .list ts => surfaceAll ts
  | _ => []

def surfaceAll : List Tree → List (Kind × List Tree)
  | [] => []
  | t :: ts => surface t ++ surfaceAll ts

end

def partsOf : Tree → List Tree
  | .node _ fs => fs
  | .list ts => ts
  | _ => []

theorem parts_walk (t : Tree) : (walk t).parts = walkAll (partsOf t) := by
  cases t <;> rfl

theorem mem_surfaceAll {ts : List Tree} {t : Tree} {e : Kind × List Tree} (ht : t ∈ ts)
    (he : e ∈ surface t) : e ∈ surfaceAll ts := by
  induction ts with
  | nil => cases ht
  | cons u ts ih =>
    rcases List.mem_cons.1 ht with rfl | ht
    · exact List.mem_append_left _ he
    · exact List.mem_append_right _ (ih ht)

theorem mem_surface_node {k : Kind} {fs : List Tree} (hf : k ≠ .functionDef) (hc : k ≠ .classDef)
    {t : Tree} (ht : t ∈ fs) {e : Kind × List Tree} (he : e ∈ surface t) :
    e ∈ surface (.node k fs) := by
  rw [surface, if_neg (by simp [hf, hc])]
  exact List.mem_cons_of_mem _ (mem_surfaceAll ht he)

/-- The nodes that are walked where a field holds the tree. -/
def nodesIn : Tree → List Tree
  | .node k fs => [.node k fs]
  | .list ts => ts.filter Tree.isNode
  | _ => []

theorem mem_surface_of_nodesIn {t u : Tree} (hu : u ∈ nodesIn t) {e : Kind × List Tree}
    (he : e ∈ surface u) : e ∈ surface t := by
  cases t with
  | node k fs => rwa [← List.mem_singleton.1 hu]
  | list ts => exact mem_surfaceAll (List.mem_filter.1 hu).1 he
  | _ => cases hu

/-! What the pieces of a walk assign to -/

/-- The result of every run assigns to names that are allowed in the scope at its end. -/
def Assigning (o : Options) (A : Scope → String → Prop) (w : Walker Piece) : Prop :=
  ∀ s p s', Ready s → run w o s = (.ok p, s') → AssignsIn (A s'.scope) p

/-- What is allowed stays so. -/
def Enduring (A : Scope → String → Prop) : Prop := ∀ ⦃a b⦄, Lasts a b → ∀ n, A a n → A b n

theorem lasts_walk (o : Options) (t : Tree) : (walk t).All (KeepsAt o (OnScope Lasts)) :=
  walk_scoped Scoped.ofLasts Specials.ofLasts t

theorem ready_visit {t : Tree} {o : Options} {s s' : State} {p : Piece} (hs : Ready s)
    (h : run (visit t) o s = (.ok p, s')) : Ready s' :=
  ((walk_adds t).again o s p s' hs h).ready hs

theorem run_child {cs : List Piece} {i : Nat} {o : Options} {s s' : State} {p : Piece}
    (h : run (child cs i) o s = (.ok p, s')) : cs[i]? = some p ∧ s' = s := by
  unfold child at h
  split at h
  · next hp =>
    cases h
    exact ⟨hp, rfl⟩
  · cases h

theorem run_given {t u : Tree} {o : Options} {s s' : State} (h : run (given t) o s = (.ok u, s')) :
    u = t ∧ s' = s := by
  unfold given at h
  split at h
  · cases h
  · cases h
    exact ⟨rfl, rfl⟩

section

variable {o : Options} {A : Scope → String → Prop} (hA : Enduring A)
include hA

/-- The bounds of a slice are walked again. -/
theorem assigns_subscriptRule {slice : Tree}
    (hslice : slice.kind? = some .slice → ∀ u ∈ partsOf slice, Assigning o A (visit u))
    {s s' : State} (hs : Ready s) {cs : List Piece} (hcs : ∀ c ∈ cs, AssignsIn (A s.scope) c)
    {p : Piece} (h : run (subscriptRule (walk slice) cs) o s = (.ok p, s')) :
    AssignsIn (A s'.scope) p := by
  have hstep {t : Tree} {s s' : State} {p : Piece} (h : run (visit t) o s = (.ok p, s')) :
      Lasts s.scope s'.scope := (lasts_walk o t).again s p s' h
  have hbranch : ∀ w ∈ walkAll (partsOf slice), ∃ u ∈ partsOf slice, w = walk u :=
    forall_walkAll fun u hu => ⟨u, hu, rfl⟩
  obtain ⟨target, s1, htarget, h1⟩ := run_bind_ok h
  obtain ⟨t, s2, hgiven, h2⟩ := run_bind_ok h1
  clear h h1
  have hx : AssignsIn (A s.scope) target := results_child hcs 0 _ _ _ htarget
  obtain ⟨ht, hs2⟩ := run_given hgiven
  rw [hs2, (run_child htarget).2, ht, parts_walk, walk_tree] at h2
  generalize walkAll (partsOf slice) = ws at hbranch h2
  split at h2
  · next lower upper step =>
    replace hslice := hslice rfl
    obtain ⟨lo, hlo, rfl⟩ := hbranch lower (by simp)
    obtain ⟨hi, hhi, rfl⟩ := hbranch upper (by simp)
    -- with the lower bound known
    have rest {low : Piece} {s1 : State} (hs1 : Ready s1) (hlast : Lasts s.scope s1.scope)
        (hlow : AssignsIn (A s1.scope) low) (h : run (do
          let high ← if (walk hi).tree.isTruthy then do pure [← (walk hi).again] else pure []
          return callOf (dot target "slice") (low :: high)) o s1 = (.ok p, s')) :
        AssignsIn (A s'.scope) p := by
      split_ifs at h
      · obtain ⟨high, s2, hrun, h⟩ := run_bind_ok h
        cases h
        have hlast' := hstep hrun
        refine assignsIn_callOf (assignsIn_dot (hx.mono (hA (hlast.trans hlast'))) _) ?_
        simp only [List.forall_mem_cons, List.not_mem_nil, false_imp_iff, implies_true, and_true]
        exact ⟨hlow.mono (hA hlast'), hslice hi hhi s1 high s' hs1 hrun⟩
      · cases h
        exact assignsIn_callOf (assignsIn_dot (hx.mono (hA hlast)) _)
          (List.forall_mem_singleton.2 hlow)
    dsimp only at h2
    split at h2
    · cases h2
    · split at h2
      · obtain ⟨low, s3, hrun, h3⟩ := run_bind_ok h2
        exact rest (ready_visit hs hrun) (hstep hrun) (hslice lo hlo s low s3 hs hrun) h3
      · exact rest hs (Lasts.refl _) (assignsIn_leaf _ _ _) h2
  · obtain ⟨index, s3, hindex, h3⟩ := run_bind_ok h2
    have hi := results_child hcs 1 _ _ _ hindex
    cases h3
    obtain ⟨rfl⟩ := (run_child hindex).2
    exact assignsIn_pair rfl rfl hx hi

/-- The rules that make no assignments of their own. -/
theorem assigns_rule {k : Kind} (hk : isAssigning k = false) {fs : List Tree}
    (hfs : ∀ t ∈ fs, t.kind? = some .slice → ∀ u ∈ partsOf t, Assigning o A (visit u))
    {s s' : State} (hs : Ready s) {cs : List Piece} (hcs : ∀ c ∈ cs, AssignsIn (A s.scope) c)
    {p : Piece} (h : run (rule k (walkAll fs) cs) o s = (.ok p, s')) : AssignsIn (A s'.scope) p := by
  have hopens : opensScope k = false := by cases k <;> first | rfl | cases hk
  have hclass : k ≠ .classDef := by rintro rfl; cases hk
  have hlast : Lasts s.scope s'.scope := steps_rule (Scoped.ofLasts.steps o) hopens hclass
    (forall_walkAll fun t _ => lasts_walk o t) cs s p s' h
  unfold rule at h
  split at h
  · next slice _ hws =>
    have hmem : slice ∈ walkAll fs := by simp [hws]
    rw [walkAll_eq] at hmem
    obtain ⟨t, ht, rfl⟩ := List.mem_map.1 hmem
    exact assigns_subscriptRule hA (hfs t ht) hs hcs h
  · exact (assigns_comprehensionRule _ s p s' h).mono (hA hlast)
  · exact (assigns_fieldRule hk _ hcs s p s' h).mono (hA hlast)

theorem assigns_recordsOf {t : Tree} (ht : ∀ u ∈ nodesIn t, Assigning o A (visit u)) {s s' : State}
    (hs : Ready s) {rs : List Record} (h : run (recordsOf t) o s = (.ok rs, s')) :
    Lasts s.scope s'.scope ∧ ∀ r ∈ rs, AssignsIn (A s'.scope) r.result := by
  have hnode {k : Kind} {fs : List Tree} (ha : Assigning o A (visit (.node k fs))) {s s' : State}
      (hs : Ready s) {rs : List Record} (h : run (recordsOf (.node k fs)) o s = (.ok rs, s')) :
      Lasts s.scope s'.scope ∧ ∀ r ∈ rs, AssignsIn (A s'.scope) r.result := by
    obtain ⟨r, s1, hr, h⟩ := run_bind_ok h
    cases h
    have hvisit := run_visit_of_record hr
    refine ⟨(lasts_walk o (.node k fs)).again s _ s' hvisit, fun r' hr' => ?_⟩
    obtain rfl := List.mem_singleton.1 hr'
    exact ha s _ s' hs hvisit
  cases t with
  | node k fs => exact hnode (ht _ (.head _)) hs h
  | list ts =>
    obtain ⟨rss, hfields, rfl⟩ := run_recordsOf_list h
    refine forall_recordFields (Q := fun sc r => AssignsIn (A sc) r.result) Lasts.refl Lasts.trans
      (fun hl hr => hr.mono (hA hl)) (fun u hu s rs s' hs h => ?_) hs hfields
    cases u with
    | node k fs => exact hnode (ht _ hu) hs h
    | _ => cases (List.mem_filter.1 hu).2
  | _ =>
    cases h
    exact ⟨Lasts.refl _, by simp⟩

/-- What the fields of a node give, with the scope that they leave. -/
theorem assigns_recordFields {fs : List Tree}
    (hfs : ∀ t ∈ fs, ∀ u ∈ nodesIn t, Assigning o A (visit u)) {s s' : State} (hs : Ready s)
    {rss : List (List Record)} (h : run (recordFields fs) o s = (.ok rss, s')) :
    ∀ c ∈ nodesOf rss.flatten, AssignsIn (A s'.scope) c := by
  intro c hc
  obtain ⟨r, hr, hc⟩ := List.mem_flatMap.1 hc
  have hall := forall_recordFields (Q := fun sc r => AssignsIn (A sc) r.result) Lasts.refl Lasts.trans
    (fun hl hr => hr.mono (hA hl))
    (fun t ht s rs s' hs h => assigns_recordsOf hA (hfs t ht) hs h) hs h
  exact assignsIn_spliced (hall.2 r hr) c hc

/-- The pieces of a tree assign to what is allowed if the rules that make assignments see to it, of
the nodes that stand in no function and in no class. -/
theorem visit_assigning {Fit : Kind → List Tree → Prop}
    (hmake : ∀ k fs, isAssigning k = true → Fit k fs → ∀ rss, List.Forall₂ (Recorded o) fs rss →
      ∀ s p s', (k ≠ .functionDef → k ≠ .classDef →
        ∀ c ∈ nodesOf rss.flatten, AssignsIn (A s.scope) c) →
      run (rule k (walkAll fs) (nodesOf rss.flatten)) o s = (.ok p, s') → AssignsIn (A s'.scope) p)
    (t : Tree) (ht : ∀ e ∈ surface t, Fit e.1 e.2) : Assigning o A (visit t) := by
  -- of the parts too, since the bounds of a slice are walked by the rule of the node around it
  suffices hall : ∀ u, u = t ∨ u ∈ partsOf t → (∀ e ∈ surface u, Fit e.1 e.2) →
      Assigning o A (visit u) from hall t (.inl rfl) ht
  clear ht
  induction t using tree_induction with
  | missing =>
    rintro u (rfl | hu) - s p s' - h
    · cases h
    · cases hu
  | atom a =>
    rintro u (rfl | hu) - s p s' - h
    · exact absurd h (visitOther_fails _ o s s' p)
    · cases hu
  | list ts ih =>
    rintro u (rfl | hu) hfit s p s' hs h
    · exact absurd h (visitOther_fails _ o s s' p)
    · exact ih u hu u (.inl rfl) hfit s p s' hs h
  | node k fs ih =>
    rintro u (rfl | hu) hfit s p s' hs h
    · obtain ⟨r, hr, rfl⟩ := exists_record h
      obtain ⟨s1, s2, s3, rss, -, hs1, hfields, hs2, hrule, -, hend⟩ := run_record_stages hs hr
      have hchildren (hf : k ≠ .functionDef) (hc : k ≠ .classDef) :
          ∀ c ∈ nodesOf rss.flatten, AssignsIn (A (s.fieldsLeft s2).touched.scope) c := by
        change ∀ c ∈ nodesOf rss.flatten, AssignsIn (A s2.scope) c
        refine assigns_recordFields hA (fun f hmem u hu => ?_) hs1 hfields
        refine ih f hmem u ?_ fun e he =>
          hfit e (mem_surface_node hf hc hmem (mem_surface_of_nodesIn hu he))
        cases f with
        | node k fs => exact .inl (List.mem_singleton.1 hu)
        | list ts => exact .inr (List.mem_filter.1 hu).1
        | _ => cases hu
      have hscope : s'.scope = s3.scope := by rw [hend]
      rw [hscope]
      cases hk : isAssigning k with
      | true =>
        exact hmake k fs hk (hfit (k, fs) (by simp [surface])) rss (recorded_fields hs1 hfields) _ _ _
          hchildren hrule
      | false =>
        have hf : k ≠ .functionDef := by rintro rfl; cases hk
        have hc : k ≠ .classDef := by rintro rfl; cases hk
        refine assigns_rule hA hk (fun f hmem hslice u hu => ?_) hs2 (hchildren hf hc) hrule
        refine ih f hmem u (.inr hu) fun e he => hfit e (mem_surface_node hf hc hmem ?_)
        cases f with
        | node k' fs' =>
          cases hslice
          exact mem_surface_node (by simp) (by simp) hu he
        | _ => cases hslice
    · exact ih u hu u (.inl rfl) hfit s p s' hs h

end

end Transpile.Walk
