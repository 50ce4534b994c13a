import Transpile.Proofs.Expressions
import Transpile.Proofs.Printable

/-! Names in walks that cannot fail. As long as no special form was imported and every binding is an
identifier, names can be bound, made and declared, and the bindings stay so. -/

namespace Transpile.Walk

open Script Source

def IsIdent (p : Piece) : Prop := ∃ s m, p = .node (.leaf .ident (.text s)) m

theorem isIdent_word (s : String) : IsIdent (word s) := ⟨s, {}, rfl⟩

theorem IsIdent.printable {p : Piece} (h : IsIdent p) : Printable p := by
  obtain ⟨s, m, rfl⟩ := h
  exact printable_leaf (by simp) s

theorem IsIdent.isForm {p : Piece} (h : IsIdent p) : IsForm p := by
  obtain ⟨s, m, rfl⟩ := h
  exact ⟨_, m, rfl, by simp⟩

theorem IsIdent.value {p : Piece} (h : IsIdent p) : ∃ s, p.value = .ok (.text s) := by
  obtain ⟨s, m, rfl⟩ := h
  exact ⟨s, rfl⟩

theorem IsIdent.declare {p : Piece} (h : IsIdent p) : ∃ q, p.declare = .ok q ∧ IsIdent q := by
  obtain ⟨s, m, rfl⟩ := h
  exact ⟨_, rfl, s, _, rfl⟩

/-- No special form was imported, and every binding is an identifier. -/
structure Orderly (s : State) : Prop where
  special : s.scope.special = []
  bound : ∀ m ∈ s.scope.maps, ∀ b ∈ m, IsIdent b.target
  globalName : s.globalName = none
  newName : s.newName = none

theorem orderly_invariant : Invariant Orderly where
  congr h hs hg hn := ⟨hs ▸ h.special, hs ▸ h.bound, hg.trans h.globalName, hn.trans h.newName⟩
  enter h := ⟨h.special, fun m hm b hb => by
    rcases List.mem_cons.1 hm with rfl | hm
    · cases hb
    · exact h.bound m hm b hb, h.globalName, h.newName⟩

theorem orderly_stable : Stable Orderly := orderly_invariant.stable

theorem orderly_start : Orderly {} := by
  refine ⟨rfl, fun m hm b hb => ?_, rfl, rfl⟩
  obtain rfl := List.mem_singleton.1 hm
  cases hb

/-- No special form was imported, so every name can be bound. -/
def Unguarded (s : State) : Prop := s.scope.special = []

theorem unguarded_stable : Stable Unguarded where
  congr h hs _ _ := (congrArg Scope.special hs).trans h

theorem Unguarded.set {s : State} (h : Unguarded s) (key : Option String) (p : Piece) :
    (s.scope.set key p).1 = .ok () ∧ Unguarded { s with scope := (s.scope.set key p).2 } := by
  have hspecial : s.scope.special = [] := h
  exact ⟨by simp [Scope.set, Scope.check, Scope.isValid, hspecial], h⟩

theorem Orderly.leave {s : State} (h : Orderly s) : Orderly { s with scope := s.scope.leave } := by
  refine ⟨?_, fun m hm b hb => ?_, h.globalName, h.newName⟩
  · change s.scope.leave.special = []
    unfold Scope.leave
    split <;> exact h.special
  · change m ∈ s.scope.leave.maps at hm
    unfold Scope.leave at hm
    split at hm
    · next hout =>
      rcases List.mem_cons.1 hm with rfl | hm
      · cases hb
      · exact h.bound m (List.mem_cons_of_mem _ hm) b hb
    · next n ms hout =>
      refine h.bound m (List.mem_cons_of_mem _ ?_) b hb
      rw [hout]
      exact hm

theorem Orderly.set {s : State} (h : Orderly s) (key : Option String) {p : Piece} (hp : IsIdent p) :
    (s.scope.set key p).1 = .ok () ∧ Orderly { s with scope := (s.scope.set key p).2 } := by
  refine ⟨(Unguarded.set h.special key p).1, h.special, fun m hm b hb => ?_, h.globalName, h.newName⟩
  · rcases List.mem_cons.1 hm with rfl | hm
    · rcases mem_put hb with hb | rfl
      · exact h.bound _ List.mem_cons_self b hb
      · exact hp
    · exact h.bound m (List.mem_cons_of_mem _ hm) b hb

theorem mapM_ok {α β : Type} {f : α → Except Cause β} {as : List α} {Q : β → Prop}
    (h : ∀ a ∈ as, ∃ b, f a = .ok b ∧ Q b) : ∃ bs, as.mapM f = .ok bs ∧ ∀ b ∈ bs, Q b := by
  induction as with
  | nil => exact ⟨[], rfl, by simp⟩
  | cons a as ih =>
    obtain ⟨b, hb, hQ⟩ := h a (by simp)
    obtain ⟨bs, hbs, hQs⟩ := ih fun c hc => h c (by simp [hc])
    refine ⟨b :: bs, ?_, by simpa using ⟨hQ, hQs⟩⟩
    rw [List.mapM_cons, hb, hbs]
    rfl

theorem Orderly.identifiers {s : State} (h : Orderly s) (root : Bool) :
    ∃ ps, s.scope.identifiers root = .ok ps ∧ ∀ p ∈ ps, IsIdent p := by
  have hall : ∀ p ∈ (if root then s.scope.special.map (·.target) else []) ++
      s.scope.inner.map (·.target), IsIdent p := by
    have hinner : ∀ p ∈ s.scope.inner.map (·.target), IsIdent p := by
      intro p hp
      obtain ⟨b, hb, rfl⟩ := List.mem_map.1 hp
      exact h.bound _ List.mem_cons_self b hb
    simpa [h.special] using hinner
  unfold Scope.identifiers
  generalize (if root then s.scope.special.map (·.target) else []) ++
    s.scope.inner.map (·.target) = ps at hall ⊢
  unfold Scope.sorted
  split
  · next p =>
    obtain ⟨t, ht⟩ := (hall p (by simp)).value
    exact ⟨[p], by rw [ht]; rfl, hall⟩
  · obtain ⟨es, hes, hidents⟩ : ∃ es, Scope.named ps = .ok es ∧ ∀ e ∈ es, IsIdent e.2 :=
      mapM_ok fun p hp => by
        obtain ⟨t, ht⟩ := (hall p hp).value
        rw [ht]
        exact ⟨(t, p), rfl, hall p hp⟩
    refine ⟨_, by rw [hes]; rfl, fun p hp => ?_⟩
    obtain ⟨e, he, rfl⟩ := List.mem_map.1 hp
    exact hidents e (List.mem_mergeSort.1 he)

section

variable {o : Options} {ops : Stack Kind}

theorem gives_mapM {α β : Type} {I : State → Prop} {f : α → Walker β} {as : List α} {Q : β → Prop}
    (h : ∀ a ∈ as, Gives o I ops (f a) Q) :
    Gives o I ops (as.mapM f) fun bs => bs.length = as.length ∧ ∀ b ∈ bs, Q b := by
  induction as with
  | nil => exact gives_pure (by simp)
  | cons a as ih =>
    rw [List.mapM_cons]
    refine gives_bind (h a (by simp)) fun b hb => ?_
    refine gives_bind (ih fun c hc => h c (by simp [hc])) fun bs hbs => ?_
    exact gives_pure (by simpa using ⟨hbs.1, hb, hbs.2⟩)

theorem Holding.change {I : State → Prop} {s s' : State} (h : Holding I ops s)
    (hlevels : s'.levels = s.levels) (hops : s'.operators = s.operators) (hI : I s') :
    Holding I ops s' :=
  ⟨⟨hlevels ▸ h.ready.level, hlevels ▸ h.ready.above⟩, hI, hops.trans h.operators⟩

theorem gives_get {I : State → Prop} : Gives o I ops get I := fun s hs => ⟨s, s, rfl, hs, hs.names⟩

theorem gives_modify {I : State → Prop} {f : State → State} (hlevels : ∀ s, (f s).levels = s.levels)
    (hops : ∀ s, (f s).operators = s.operators) (hI : ∀ s, I s → I (f s)) :
    Gives o I ops (modify f) fun _ => True :=
  fun s hs => ⟨(), f s, rfl, hs.change (hlevels s) (hops s) (hI s hs.names), trivial⟩

theorem gives_leaveScope : Gives o Orderly ops leaveScope fun _ => True :=
  gives_modify (fun _ => rfl) (fun _ => rfl) fun _ h => h.leave

theorem gives_changeScope {I : State → Prop} {f : Scope → Except Cause Unit × Scope}
    (h : ∀ s, I s → (f s.scope).1 = .ok () ∧ I { s with scope := (f s.scope).2 }) :
    Gives o I ops (changeScope f) fun _ => True := by
  intro s hs
  obtain ⟨hok, hI⟩ := h s hs.names
  refine ⟨(), { s with scope := (f s.scope).2 }, ?_, hs.change rfl rfl hI, trivial⟩
  change run (need (f s.scope).1) o { s with scope := (f s.scope).2 } = _
  rw [hok]
  rfl

theorem gives_set (key : Option String) {p : Piece} (hp : IsIdent p) :
    Gives o Orderly ops (changeScope (·.set key p)) fun _ => True :=
  gives_changeScope fun _ hs => hs.set key hp

theorem gives_site {I : State → Prop} (hI : Stable I) (f : Form) (m : Marks) :
    Gives o I ops (atSite (.node f m)) fun p => ∃ m', p = .node f m' := by
  refine gives_bind gives_get fun s _ => ?_
  refine gives_bind (gives_modify (fun _ => rfl) (fun _ => rfl) fun _ h => ?_) fun _ _ => ?_
  · exact hI.congr h rfl rfl rfl
  · exact gives_pure ⟨_, rfl⟩

theorem gives_atSite {p : Piece} (hp : IsIdent p) : Gives o Orderly ops (atSite p) IsIdent := by
  obtain ⟨t, m, rfl⟩ := hp
  exact (gives_site orderly_stable _ m).mono fun _ ⟨m', hm⟩ => ⟨t, m', hm⟩

theorem gives_inScope {I : State → Prop} (key : Option String) :
    Gives o I ops (inScope key) fun _ => True :=
  gives_bind gives_get fun _ _ => gives_pure trivial

theorem gives_bindAs (key : Piece) {p : Piece} (hp : IsIdent p) :
    Gives o Orderly ops (bindAs key p) IsIdent := by
  refine gives_bind (gives_inScope _) fun found _ => ?_
  split_ifs
  · exact gives_pure hp
  · refine gives_bind (gives_atSite hp) fun q hq => ?_
    exact gives_bind (gives_set _ hq) fun _ _ => gives_pure hq

/-- Where no special form is in the way, what is bound stays the form that it is. -/
theorem gives_bindForm (key : Piece) (f : Form) (m : Marks) :
    Gives o Unguarded ops (bindAs key (.node f m)) fun p => ∃ m', p = .node f m' := by
  refine gives_bind (gives_inScope _) fun found _ => ?_
  split_ifs
  · exact gives_pure ⟨m, rfl⟩
  · refine gives_bind (gives_site unguarded_stable f m) fun q hq => ?_
    exact gives_bind (gives_changeScope fun _ h => h.set _ q) fun _ _ => gives_pure hq

theorem gives_bindName {p : Piece} (hp : IsIdent p) : Gives o Orderly ops (Walk.bind p) IsIdent := by
  obtain ⟨s, hs⟩ := hp.value
  unfold Walk.bind
  rw [hs]
  exact gives_bind_eq gives_need (gives_bindAs _ hp)

theorem gives_fresh (stem : String) : Gives o Orderly ops (fresh stem) IsIdent := by
  refine gives_bind gives_get fun s _ => gives_bind_eq (gives_sourceName _) ?_
  refine gives_bind (gives_atSite (isIdent_word _)) fun p hp => ?_
  exact gives_bind (gives_set _ hp) fun _ _ => gives_pure hp

/-- A condition on names and scopes under which temporaries can be made. -/
structure Roomy (o : Options) (I : State → Prop) : Prop extends Stable I where
  gives_fresh : ∀ ops stem, Gives o I ops (fresh stem) IsIdent

theorem orderly_roomy : Roomy o Orderly where
  toStable := orderly_stable
  gives_fresh _ stem := Walk.gives_fresh stem

theorem gives_declare {I : State → Prop} (hI : Stable I) {p : Piece} (hp : IsIdent p) :
    Gives o I ops (declare p) IsIdent := by
  obtain ⟨q, hq, hident⟩ := hp.declare
  have hneed : Gives o I ops (need p.declare) IsIdent := by
    rw [hq]
    exact gives_pure hident
  unfold declare
  split
  · refine gives_bind (gives_modify (fun _ => rfl) (fun _ => rfl) fun _ h => ?_) fun _ _ => hneed
    exact hI.congr h rfl rfl rfl
  · exact hneed

theorem gives_declaration {I : State → Prop} (hI : Stable I) {p : Piece} (hp : IsIdent p) (v : Piece) :
    Gives o I ops (declaration p v) fun q => ∃ n, IsIdent n ∧ q = (Form.varDecl n v).piece :=
  gives_bind (gives_declare hI hp) fun n hn => gives_pure ⟨n, hn, rfl⟩

/-- What a scope declares is one statement or none. -/
theorem gives_scopeVars (root : Bool) :
    Gives o Orderly ops (scopeVars root) fun vs => ∀ v ∈ vs, Printable v := by
  refine gives_bind gives_get fun s hs => ?_
  obtain ⟨ps, hps, hidents⟩ := hs.identifiers root
  rw [hps]
  refine gives_bind_eq gives_need ?_
  split
  · exact gives_pure (by simp)
  · have hdecls : Gives o Orderly ops (ps.mapM fun p => declaration p .absent) fun ds =>
        ds.length = ps.length ∧ ∀ d ∈ ds, Printable d := gives_mapM fun p hp => by
      refine Gives.mono (gives_declaration orderly_stable (hidents p hp) _) ?_
      rintro _ ⟨n, hn, rfl⟩
      exact printable_varDecl hn.printable printable_absent
    refine gives_bind hdecls fun ds hds => gives_pure (List.forall_mem_singleton.2 ?_)
    exact printable_vars (items_printable hds.2)

theorem gives_functionOf {I : State → Prop} {ps : List Piece} (hps : ∀ p ∈ ps, IsIdent p)
    (body : Seq) : Gives o I ops (functionOf (.items ps) body) fun p =>
      ∃ qs, (∀ q ∈ qs, IsIdent q) ∧ p = (Form.function .expr .absent (.items qs) body).piece := by
  obtain ⟨qs, hqs, hidents⟩ := mapM_ok fun p hp => (hps p hp).declare
  have hform : Form.functionOf .expr .absent (.items ps) body =
      .ok (.function .expr .absent (.items qs) body) := by
    have hdeclare : (Seq.items ps).declare = .ok (.items qs) := by
      rw [Seq.declare, hqs]
      rfl
    change ((Seq.items ps).declare >>= fun qs => pure (Form.function .expr .absent qs body)) = _
    rw [hdeclare]
    rfl
  unfold functionOf
  rw [hform]
  exact gives_bind_eq gives_need (gives_pure ⟨qs, hidents, rfl⟩)

end

end Transpile.Walk
