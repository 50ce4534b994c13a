import Transpile.Proofs.Success
import Transpile.Proofs.Temporaries.Numbering
import Transpile.Proofs.Temporaries.Tracked

/-! Temporaries are apart. A name that was bound stays visible until its scope is left, only a
constructor's is given up, so each temporary is drawn where those before it in its own scope and in
the scopes around it can be seen. It is then given another key, and another name in camel case too. -/

namespace Transpile

open Script

/-- Nothing is lost in the innermost map but perhaps the name of a constructor. -/
structure Lasts (a b : Scope) : Prop where
  outer : b.outer = a.outer
  keys : ∀ k, k ≠ "__init__" → a.inner.hasKey (some k) = true → b.inner.hasKey (some k) = true

theorem Lasts.refl (a : Scope) : Lasts a a := ⟨rfl, fun _ _ => id⟩

theorem Lasts.trans {a b c : Scope} (h1 : Lasts a b) (h2 : Lasts b c) : Lasts a c :=
  ⟨h2.outer.trans h1.outer, fun k hk h => h2.keys k hk (h1.keys k hk h)⟩

theorem lasts_set (a : Scope) (key : Option String) (p : Piece) : Lasts a (a.set key p).2 :=
  ⟨rfl, fun _ _ h => hasKey_put (.inl h)⟩

theorem lasts_unset (a : Scope) : Lasts a (a.unset "__init__").2 := by
  unfold Scope.unset
  split_ifs
  · refine ⟨rfl, fun k hk h => ?_⟩
    obtain ⟨b, hb, hkey⟩ := List.any_eq_true.1 h
    have hkey : b.key = some k := of_decide_eq_true hkey
    have hkept : b ∈ a.inner.erase "__init__" :=
      List.mem_filter.2 ⟨hb, by simpa [hkey] using hk⟩
    exact List.any_eq_true.2 ⟨b, hkept, decide_eq_true hkey⟩
  · exact Lasts.refl a

theorem Lasts.leave {a b : Scope} (h : Lasts a b) : Lasts a.leave b.leave := by
  unfold Scope.leave
  rw [h.outer]
  split
  · exact ⟨rfl, fun _ _ => id⟩
  · exact ⟨rfl, fun _ _ => id⟩

theorem Lasts.hasKey {a b : Scope} (h : Lasts a b) {k : String} (hk : k ≠ "__init__")
    (ha : a.hasKey (some k) = true) : b.hasKey (some k) = true := by
  rw [hasKey_maps] at ha ⊢
  rcases ha with ha | ha
  · exact .inl (h.keys k hk ha)
  · right
    rwa [h.outer]

theorem hasKey_enter {a : Scope} {key : Option String} (h : a.hasKey key = true) :
    a.enter.hasKey key = true := by
  rw [hasKey_maps] at h ⊢
  simpa [Scope.enter] using .inr h

namespace Walk

open Source

theorem Scoped.ofLasts : Scoped (OnScope Lasts) where
  trans := Lasts.trans
  note h := by
    unfold OnScope
    rw [h.scope]
    exact Lasts.refl _
  set _ := lasts_set _ _ _
  unset _ := lasts_unset _
  left := Lasts.leave

theorem Specials.ofLasts : Specials (OnScope Lasts) := fun _ => ⟨rfl, fun _ _ => id⟩

/-! Keys of temporaries -/

/-- The key of a temporary. -/
def IsTemporary (k : String) : Prop := ∃ (st : Stem) (i : Nat), k = Scope.numbered st.text i

theorem isTemporary_key (d : Draw) : IsTemporary d.key := by
  obtain ⟨i, hi, -⟩ := exists_fresh d.scope d.stem.text
  exact ⟨d.stem, i, hi⟩

theorem IsTemporary.ne_init {k : String} (h : IsTemporary k) : k ≠ "__init__" := by
  obtain ⟨st, i, rfl⟩ := h
  exact numbered_ne_init st.text i

theorem Stem.camel_inj {st st' : Stem} (h : Text.camel st.text = Text.camel st'.text) : st = st' := by
  cases st <;> cases st' <;> first | rfl | exact absurd h (by decide)

theorem Stem.digit_notMem_camel (st : Stem) :
    ∀ c ∈ (Text.camel st.text).toList, c.isDigit = false := by
  have hall : (Text.camel st.text).toList.all (fun c => !c.isDigit) = true := by
    cases st <;> decide
  simpa only [List.all_eq_true, Bool.not_eq_true'] using hall

/-- In camel case the keys of temporaries stay different. -/
theorem nameIn_inj {o : Options} {k k' : String} (hk : IsTemporary k) (hk' : IsTemporary k')
    (h : nameIn o k = nameIn o k') : k = k' := by
  unfold nameIn at h
  split_ifs at h
  · obtain ⟨st, i, rfl⟩ := hk
    obtain ⟨st', j, rfl⟩ := hk'
    rw [Text.camel_numbered, Text.camel_numbered] at h
    have hlist := congrArg String.toList h
    rw [String.toList_append, String.toList_append] at hlist
    obtain ⟨hstem, hindex⟩ := append_digits_inj st.digit_notMem_camel st'.digit_notMem_camel
      (Reading.Token.toString_digits i).2 (Reading.Token.toString_digits j).2 hlist
    rw [Stem.camel_inj (String.toList_inj.1 hstem), Scope.numbered, Scope.numbered,
      String.toList_inj.1 hindex]
  · exact h

/-! What a walk notes -/

/-- The keys that are bound in the scope itself. -/
def keysOf : List Entry → List String
  | [] => []
  | .drawn d :: es => d.key :: keysOf es
  | .bound n :: es => n :: keysOf es
  | .inside _ _ :: es => keysOf es

theorem keysOf_append (es es' : List Entry) : keysOf (es ++ es') = keysOf es ++ keysOf es' := by
  induction es with
  | nil => rfl
  | cons e es ih =>
    cases e with
    | drawn d => simp only [List.cons_append, keysOf, ih]
    | bound n => simp only [List.cons_append, keysOf, ih]
    | inside t inner => simpa only [List.cons_append, keysOf] using ih

/-- The keys are visible, except for one that a class may have removed. -/
def Visible (sc : Scope) (ks : List String) : Prop :=
  ∀ k ∈ ks, k ≠ "__init__" → sc.hasKey (some k) = true

theorem Visible.lasts {a b : Scope} {ks : List String} (h : Visible a ks) (hab : Lasts a b) :
    Visible b ks :=
  fun k hk hne => hab.hasKey hne (h k hk hne)

theorem Visible.enter {a : Scope} {ks : List String} (h : Visible a ks) : Visible a.enter ks :=
  fun k hk hne => hasKey_enter (h k hk hne)

theorem Visible.append {a : Scope} {ks ks' : List String} (h : Visible a ks) (h' : Visible a ks') :
    Visible a (ks ++ ks') :=
  fun k hk => (List.mem_append.1 hk).elim (h k) (h' k)

/-- Each temporary has the name for its key, and was drawn where the keys `ks`, which were bound
before, and those that were bound since were visible. -/
inductive Seen (o : Options) : List String → List Entry → Prop where
  | nil {ks : List String} : Seen o ks []
  | drawn {ks : List String} {d : Draw} {es : List Entry}
      (name : nameOf? d.piece = some (nameIn o d.key)) (visible : Visible d.scope ks)
      (rest : Seen o (d.key :: ks) es) : Seen o ks (.drawn d :: es)
  | bound {ks : List String} {n : String} {es : List Entry} (rest : Seen o (n :: ks) es) :
      Seen o ks (.bound n :: es)
  | inside {ks : List String} {t : Tree} {inner es : List Entry} (within : Seen o ks inner)
      (rest : Seen o ks es) : Seen o ks (.inside t inner :: es)

theorem Seen.append {o : Options} {ks : List String} {es es' : List Entry} (h : Seen o ks es)
    (h' : Seen o ((keysOf es).reverse ++ ks) es') : Seen o ks (es ++ es') := by
  induction h with
  | nil => simpa [keysOf] using h'
  | drawn name visible _ ih => exact .drawn name visible (ih (by simpa [keysOf] using h'))
  | bound _ ih => exact .bound (ih (by simpa [keysOf] using h'))
  | inside within _ _ ih => exact .inside within (ih h')

/-- What is noted between two states. -/
structure Spans (o : Options) (s : State) (es : List Entry) (s' : State) : Prop where
  lasts : Lasts s.scope s'.scope
  shown : Visible s'.scope (keysOf es)
  seen : ∀ ks, Visible s.scope ks → Seen o ks es

theorem Spans.trans {o : Options} {a b c : State} {es es' : List Entry} (h : Spans o a es b)
    (h' : Spans o b es' c) : Spans o a (es ++ es') c where
  lasts := h.lasts.trans h'.lasts
  shown := by
    rw [keysOf_append]
    exact (h.shown.lasts h'.lasts).append h'.shown
  seen ks hks := by
    refine (h.seen ks hks).append (h'.seen _ ?_)
    refine Visible.append (fun k hk => h.shown k (List.mem_reverse.1 hk)) (hks.lasts h.lasts)

theorem Spans.of_lasts {o : Options} {s s' : State} (h : Lasts s.scope s'.scope) : Spans o s [] s' :=
  ⟨h, fun _ hk => absurd hk List.not_mem_nil, fun _ _ => .nil⟩

namespace Tracked

section

variable {α β : Type} {o : Options} {s s' : State}

theorem run_bind_tracked {w : Tracked α} {f : α → Tracked β} {b : β} {es : List Entry}
    (h : run (w >>= f).run o s = (.ok (b, es), s')) :
    ∃ a es1 s1 es2, run w.run o s = (.ok (a, es1), s1) ∧
      run (f a).run o s1 = (.ok (b, es2), s') ∧ es = es1 ++ es2 := by
  change run (w.run >>= fun e => (fun e' => (e'.1, e.2 ++ e'.2)) <$> (f e.1).run) o s = _ at h
  obtain ⟨⟨a, es1⟩, s1, h1, h⟩ := run_bind_ok h
  rw [map_eq_pure_bind] at h
  obtain ⟨⟨b', es2⟩, s2, h2, h⟩ := run_bind_ok h
  cases h
  exact ⟨a, es1, s1, es2, h1, h2, rfl⟩

theorem run_lift_tracked {v : Walker α} {a : α} {es : List Entry}
    (h : run (liftM v : Tracked α).run o s = (.ok (a, es), s')) :
    run v o s = (.ok a, s') ∧ es = [] := by
  change run ((fun a => (a, [])) <$> v) o s = _ at h
  rw [map_eq_pure_bind] at h
  obtain ⟨a', s1, h1, h⟩ := run_bind_ok h
  cases h
  exact ⟨h1, rfl⟩

theorem run_step {v : Walker α} {f : α → Tracked β} {b : β} {es : List Entry}
    (h : run (liftM v >>= f).run o s = (.ok (b, es), s')) :
    ∃ a s1, run v o s = (.ok a, s1) ∧ run (f a).run o s1 = (.ok (b, es), s') := by
  obtain ⟨a, es1, s1, es2, h1, h2, rfl⟩ := run_bind_tracked h
  obtain ⟨hrun, rfl⟩ := run_lift_tracked h1
  exact ⟨a, s1, hrun, h2⟩

/-- Every successful run notes what spans the states before and after it. -/
def SpansAt (o : Options) (w : Tracked α) : Prop :=
  ∀ s a es s', run w.run o s = (.ok (a, es), s') → Spans o s es s'

theorem spans_seq {w : Tracked α} {f : α → Tracked β} (hw : SpansAt o w)
    (hf : ∀ a, SpansAt o (f a)) : SpansAt o (w >>= f) := by
  intro s b es s' h
  obtain ⟨a, es1, s1, es2, h1, h2, rfl⟩ := run_bind_tracked h
  exact (hw s a es1 s1 h1).trans (hf a s1 b es2 s' h2)

theorem spans_lift {v : Walker α} (hv : KeepsAt o (OnScope Lasts) v) :
    SpansAt o (liftM v : Tracked α) := by
  intro s a es s' h
  obtain ⟨hrun, rfl⟩ := run_lift_tracked h
  exact Spans.of_lasts (hv s a s' hrun)

theorem spans_pure (a : α) : SpansAt o (pure a) := by
  intro s b es s' h
  cases h
  exact Spans.of_lasts (Lasts.refl _)

theorem spans_throw (c : Cause) : SpansAt o (throw c : Tracked α) := by
  intro s a es s' h
  cases h

theorem spans_ite {c : Prop} [Decidable c] {w w' : Tracked α} (h : SpansAt o w)
    (h' : SpansAt o w') : SpansAt o (if c then w else w') := by
  split_ifs
  · exact h
  · exact h'

theorem spans_guard {c : Prop} [Decidable c] {e : Cause} {f : Unit → Tracked β}
    (hf : SpansAt o (f ())) : SpansAt o (if c then throw e >>= f else f ()) :=
  spans_ite (fun s a es s' h => by cases h) hf

theorem spans_forM {f : α → Tracked PUnit} {as : List α} (hf : ∀ a ∈ as, SpansAt o (f a)) :
    SpansAt o (as.forM f) := by
  induction as with
  | nil => exact spans_pure _
  | cons a as ih => exact spans_seq (hf a (by simp)) fun _ => ih fun b hb => hf b (by simp [hb])

theorem stepsLasts (o : Options) : Steps o (OnScope Lasts) := Scoped.ofLasts.steps o

/-! Temporaries -/

theorem run_sourceName_text (k : String) :
    run (sourceName (.text k)) o s = (.ok (word (nameIn o k)), s) := by
  unfold sourceName nameIn
  rw [run_bind_of_ok run_read]
  split_ifs <;> rfl

/-- The key of a temporary is that of the scope before it, and is visible from then on. -/
theorem run_fresh {stem : String} {p : Piece} (h : run (fresh stem) o s = (.ok p, s')) :
    nameOf? p = some (nameIn o (s.scope.fresh stem)) ∧
      s'.scope = (s.scope.set (some (s.scope.fresh stem)) p).2 := by
  obtain ⟨_, _, hget, h⟩ := run_bind_ok h
  cases hget
  obtain ⟨q, s1, hname, h⟩ := run_bind_ok h
  obtain ⟨r, s2, hsite, h⟩ := run_bind_ok h
  obtain ⟨_, s3, hset, h⟩ := run_bind_ok h
  cases h
  rw [run_sourceName_text] at hname
  cases hname
  obtain ⟨hvalue, hscope⟩ := run_atSite hsite
  obtain ⟨-, rfl⟩ := run_changeScope hset
  refine ⟨nameOf?_congr hvalue, ?_⟩
  rw [hscope]

theorem spans_draw (st : Stem) : SpansAt o (draw st) := by
  intro s p es s' h
  obtain ⟨_, _, hget, h1⟩ := run_step h
  cases hget
  obtain ⟨_, s1, hfresh, h2⟩ := run_step h1
  obtain ⟨_, _, _, _, htell, hpure, rfl⟩ := run_bind_tracked h2
  cases htell
  cases hpure
  obtain ⟨hname, hscope⟩ := run_fresh hfresh
  have hvisible : s'.scope.hasKey (some (s.scope.fresh st.text)) = true := by
    rw [hscope]
    exact hasKey_maps.2 (.inl (hasKey_put (.inr rfl)))
  refine ⟨?_, fun k hk _ => ?_, fun ks hks => .drawn hname hks .nil⟩
  · rw [hscope]
    exact lasts_set _ _ _
  · rcases List.mem_singleton.1 hk with rfl
    exact hvisible

/-! Names -/

/-- Nothing is drawn, and what is noted is visible at the end. -/
def EndsAt (o : Options) (w : Tracked α) : Prop :=
  ∀ s a es s', run w.run o s = (.ok (a, es), s') → Visible s'.scope (keysOf es) ∧ ∀ ks, Seen o ks es

theorem ends_lift (v : Walker α) : EndsAt o (liftM v : Tracked α) := by
  intro s a es s' h
  obtain ⟨-, rfl⟩ := run_lift_tracked h
  exact ⟨fun _ hk => absurd hk List.not_mem_nil, fun _ => .nil⟩

theorem ends_step {v : Walker α} {f : α → Tracked β} (hf : ∀ a, EndsAt o (f a)) :
    EndsAt o (liftM v >>= f) := by
  intro s b es s' h
  obtain ⟨a, s1, -, h⟩ := run_step h
  exact hf a s1 b es s' h

theorem EndsAt.bind_pure {w : Tracked α} {f : α → Tracked β} (hw : EndsAt o w)
    (hf : ∀ a, ∃ b, f a = pure b) : EndsAt o (w >>= f) := by
  intro s b es s' h
  obtain ⟨a, es1, s1, _, h1, h2, rfl⟩ := run_bind_tracked h
  obtain ⟨b', hb⟩ := hf a
  rw [hb] at h2
  cases h2
  change Visible s'.scope (keysOf (es1 ++ [])) ∧ ∀ ks, Seen o ks (es1 ++ [])
  rw [List.append_nil]
  exact hw s a es1 s' h1

theorem ends_bindAs (key p : Piece) : EndsAt o (bindAs key p) := by
  intro s q es s' h
  obtain ⟨_, _, hrun, h1⟩ := run_step h
  obtain ⟨_, _, _, _, htell, hpure, rfl⟩ := run_bind_tracked h1
  cases htell
  cases hpure
  have hkey := hasKey_bindAs hrun
  cases hk : keyOf key with
  | none => exact ⟨fun _ hk => absurd hk List.not_mem_nil, fun _ => .nil⟩
  | some n =>
    rw [hk] at hkey
    refine ⟨fun k hn _ => ?_, fun _ => .bound .nil⟩
    obtain rfl := List.mem_singleton.1 hn
    exact hkey

theorem EndsAt.spans {w : Tracked α} {v : Walker α} (h : EndsAt o w) (he : Erases w v)
    (hv : KeepsAt o (OnScope Lasts) v) : SpansAt o w := by
  intro s a es s' hrun
  obtain ⟨hshown, hseen⟩ := h s a es s' hrun
  exact ⟨hv s a s' (he.run_of_tracked hrun), hshown, fun ks _ => hseen ks⟩

theorem spans_bind (p : Piece) : SpansAt o (bind p) :=
  (ends_step fun v => ends_bindAs v p).spans (erases_bind p) (keeps_bindByValue (stepsLasts o) p)

theorem spans_bindTarget (t : Piece) : SpansAt o (bindTarget t) :=
  spans_ite (spans_bind t) (spans_pure t)

/-! Rules -/

theorem spans_deleteRule (cs : List Piece) : SpansAt o (deleteRule cs) := by
  refine spans_seq ?_ fun ds => spans_pure _
  induction cs with
  | nil => exact spans_pure _
  | cons c cs ih => exact spans_seq (spans_bind c) fun c => spans_seq ih fun ds => spans_pure _

theorem spans_placeTarget (value : Piece) (extras : List Piece) (t : Piece) :
    SpansAt o (placeTarget value extras t) := by
  unfold placeTarget
  split
  · exact spans_seq (spans_draw .parts) fun r => spans_pure _
  · exact spans_pure _

theorem spans_assignTargets (value : Piece) (ts : List Piece) (chain : Piece)
    (extras : List Piece) : SpansAt o (assignTargets value ts chain extras) := by
  induction ts generalizing chain extras with
  | nil => exact spans_pure _
  | cons t ts ih =>
    exact spans_seq (spans_bindTarget t) fun t => spans_seq (spans_placeTarget _ _ _) fun e => ih _ _

theorem spans_assignRule (cs : List Piece) : SpansAt o (assignRule cs) := by
  unfold assignRule
  split
  · exact spans_throw _
  · refine spans_seq (spans_assignTargets _ _ _ _) fun e => ?_
    exact spans_ite (spans_pure _) (spans_pure _)

theorem spans_augmentRule (op : Tree) (cs : List Piece) : SpansAt o (augmentRule op cs) := by
  have hS := stepsLasts o
  refine spans_seq (spans_lift (keeps_child hS cs 0)) fun target => ?_
  refine spans_seq (spans_lift (keeps_operatorOf hS op)) fun b => ?_
  split
  · exact spans_seq (spans_lift (keeps_augmented hS _ _ _)) fun _ => spans_pure _
  · exact spans_seq (spans_lift (keeps_augmented hS _ _ _)) fun _ => spans_pure _
  · refine spans_seq (spans_lift (keeps_child hS cs 1)) fun sign => ?_
    refine spans_seq (spans_lift (keeps_child hS cs 2)) fun value => ?_
    refine spans_seq (spans_bindTarget target) fun t => spans_lift ?_
    unfold augmentBy
    split
    · exact keeps_pure hS _
    · exact keeps_throw _

theorem spans_whileRule (body orelse : Tree) (cs : List Piece) :
    SpansAt o (whileRule body orelse cs) := by
  have hS := stepsLasts o
  refine spans_seq (spans_lift (keeps_child hS _ _)) fun test => ?_
  refine spans_seq (spans_lift (keeps_sizeOfField hS _)) fun n => ?_
  refine spans_seq (spans_lift (keeps_given hS _)) fun t => spans_ite ?_ (spans_pure _)
  exact spans_seq (spans_draw .loop) fun flag => spans_pure _

theorem spans_forRule (cs : List Piece) : SpansAt o (forRule cs) := by
  have hS := stepsLasts o
  refine spans_seq (spans_draw .loop) fun i => spans_seq (spans_draw .loop) fun values => ?_
  refine spans_seq (spans_lift (keeps_child hS cs 0)) fun item => ?_
  refine spans_seq (spans_lift (keeps_child hS cs 1)) fun source => ?_
  refine spans_seq (spans_lift (keeps_child hS cs 2)) fun body => ?_
  refine spans_seq (spans_lift (keeps_declaration hS _ _)) fun _ => ?_
  exact spans_seq (spans_bind item) fun item => spans_pure _

/-! Scopes of their own -/

theorem run_enclosed {w : Tracked α} {t : Tree} {a : α} {es : List Entry}
    (h : run (enclosed t w).run o s = (.ok (a, es), s')) :
    ∃ inner, run w.run o s = (.ok (a, inner), s') ∧ es = [.inside t inner] := by
  obtain ⟨e, s1, h1, h⟩ := run_bind_ok h
  cases h
  exact ⟨e.2, h1, rfl⟩

theorem ends_functionRule (name decorators : Tree) (cs : List Piece) :
    EndsAt o (functionRule name decorators cs) := by
  refine ends_step fun vars => ends_step fun n => ?_
  unfold defineFunction
  generalize (if n = 0 then (cs.drop 1, []) else ((butLast n cs).drop 1, lastOf n cs)) = e
  refine ends_step fun key => ends_step fun id => ends_step fun id => ends_step fun params => ?_
  refine ends_step fun f => ends_step fun _ => (ends_bindAs key id).bind_pure fun _ => ?_
  cases e.2 with
  | nil => exact ⟨_, rfl⟩
  | cons d ds => exact ⟨_, rfl⟩

theorem ends_defineClass (name : Tree) (e : Piece × List (Piece × Piece)) (c : Piece) :
    EndsAt o (defineClass name e c) := by
  refine ends_step fun vars => ends_step fun closure => ends_step fun key => ?_
  exact ends_step fun id => ends_step fun _ => (ends_bindAs key id).bind_pure fun id => ⟨_, rfl⟩

/-- The function of a class is drawn in a scope of its own, where what is visible around is visible. -/
theorem spans_classRule (t name : Tree) (cs : List Piece) : SpansAt o (classRule t name cs) := by
  intro s p es s' h
  have hlasts : Lasts s.scope s'.scope :=
    keeps_classRule Scoped.ofLasts name cs s p s' ((erases_classRule t name cs).run_of_tracked h)
  obtain ⟨e, s1, hparts, h1⟩ := run_step h
  obtain ⟨c, _, s2, es2, h2, hdefine, rfl⟩ := run_bind_tracked h1
  obtain ⟨inner, h3, rfl⟩ := run_enclosed h2
  obtain ⟨_, _, henter, hdraw⟩ := run_step h3
  cases henter
  obtain ⟨hshown, hseen⟩ := ends_defineClass name e c s2 p es2 s' hdefine
  refine ⟨hlasts, hshown, fun ks hks => .inside ?_ (hseen ks)⟩
  have hkept : Lasts s.scope s1.scope := keeps_classParts Scoped.ofLasts cs s e s1 hparts
  exact (spans_draw .maker _ c inner s2 hdraw).seen ks (hks.lasts hkept).enter

/-! Branches -/

inductive Branch.Spans (o : Options) : Branch → Prop where
  | mk {t : Tree} {w : Tracked Piece} {ps : List Branch} (again : SpansAt o w)
      (parts : ∀ p ∈ ps, Branch.Spans o p) : Branch.Spans o (.mk t w ps)

theorem Branch.Spans.again {w : Branch} (h : w.Spans o) : SpansAt o w.again := by
  cases h with
  | mk again parts => exact again

theorem Branch.Spans.parts {w : Branch} (h : w.Spans o) : ∀ p ∈ w.parts, p.Spans o := by
  cases h with
  | mk again parts => exact parts

theorem spans_subscriptRule {w : Branch} (h : w.Spans o) (cs : List Piece) :
    SpansAt o (subscriptRule w cs) := by
  have hS := stepsLasts o
  refine spans_seq (spans_lift (keeps_child hS cs 0)) fun target => ?_
  refine spans_seq (spans_lift (keeps_given hS w.tree)) fun t => ?_
  split
  · next lower upper step hp =>
    have hl : lower.Spans o := h.parts _ (by rw [hp]; simp)
    have hu : upper.Spans o := h.parts _ (by rw [hp]; simp)
    have last (low : Piece) (high : List Piece) : SpansAt o
        (pure (callOf (dot target "slice") (low :: high))) := spans_pure _
    have rest (low : Piece) := spans_ite (c := upper.tree.isTruthy)
      (spans_seq hu.again fun p => spans_seq (spans_pure [p]) (last low))
      (spans_seq (spans_pure []) (last low))
    exact spans_guard (spans_ite (spans_seq hl.again rest) (spans_seq (spans_pure _) rest))
  · exact spans_seq (spans_lift (keeps_child hS cs 1)) fun _ => spans_pure _

theorem spans_conditions {ws : List Branch} (h : ∀ w ∈ ws, w.Spans o) (acc : Piece) :
    SpansAt o (conditions ws acc) := by
  induction ws generalizing acc with
  | nil => exact spans_pure _
  | cons w ws ih =>
    exact spans_seq (h w (by simp)).again fun c => ih (fun v hv => h v (by simp [hv])) _

theorem spans_comprehensionRule {w : Branch} (h : w.Spans o) :
    SpansAt o (comprehensionRule w) := by
  have hS := stepsLasts o
  have hgiven (t : Tree) := spans_lift (keeps_given hS t)
  refine spans_seq (spans_lift (keeps_sizeOfField hS _)) fun n => spans_guard ?_
  split
  · next target source ifs _ hp =>
    have hc := h.parts _ (by rw [hp]; exact List.mem_singleton_self _)
    have hsource : source.Spans o := hc.parts _ (by simp [Branch.parts])
    have hifs : ifs.Spans o := hc.parts _ (by simp [Branch.parts])
    have hcollect (i n values results : Piece) (vars : List Piece) (filled body : Piece) :
        SpansAt o (liftM (collecting i n values results vars filled body)) :=
      spans_lift (keeps_bind hS (keeps_functionOf hS _ _) fun _ => keeps_pure hS _)
    refine spans_seq (hgiven _) fun _ => spans_seq (hgiven _) fun _ => spans_seq (hgiven _) fun _ => ?_
    refine spans_seq (spans_draw .index) fun i => spans_seq (spans_draw .length) fun n => ?_
    refine spans_seq (spans_draw .values) fun values => spans_seq (spans_draw .results) fun results => ?_
    refine spans_seq (spans_lift (keeps_mapM hS (fun p => keeps_declaration hS p _) _)) fun vars => ?_
    refine spans_seq hsource.again fun filled => spans_ite ?_ (hcollect _ _ _ _ _ _ _)
    exact spans_seq (spans_conditions hifs.parts _) fun test => hcollect _ _ _ _ _ _ _
  · exact spans_throw _

/-! The walk -/

theorem spans_rule {k : Kind} (hk : opensScope k = false) {ws : List Branch}
    (h : ∀ w ∈ ws, w.Spans o) (cs : List Piece) : SpansAt o (rule k ws cs) := by
  unfold rule
  split
  · exact spans_subscriptRule (h _ (by simp)) cs
  · exact spans_comprehensionRule (h _ (by simp))
  · exact spans_deleteRule cs
  · exact spans_assignRule cs
  · exact spans_augmentRule _ cs
  · exact spans_whileRule _ _ cs
  · exact spans_forRule cs
  · cases hk
  · exact spans_classRule _ _ cs
  · next hclass =>
    refine spans_lift ?_
    by_cases hc : k = .classDef
    · subst hc
      cases ws with
      | nil => exact keeps_pure (stepsLasts o) _
      | cons name ws => exact (hclass name ws rfl rfl).elim
    · exact steps_fieldRule (stepsLasts o) hk hc _ _

/-- The rule of a node with a scope of its own draws nothing. -/
theorem ends_rule {k : Kind} (hk : opensScope k = true) (ws : List Branch) (cs : List Piece) :
    EndsAt o (rule k ws cs) := by
  cases k <;> cases hk
  · exact ends_lift _
  · match ws with
    | [name, _, _, decorators, _] => exact ends_functionRule name.tree decorators.tree cs
    | [] | [_] | [_, _] | [_, _, _] | [_, _, _, _] | _ :: _ :: _ :: _ :: _ :: _ :: _ =>
      exact ends_lift _

theorem spans_visitField {w : Branch} (h : w.Spans o) : SpansAt o (visitField w) := by
  unfold visitField
  split
  · exact spans_seq h.again fun _ => spans_pure _
  · refine spans_forM fun p hp => spans_ite ?_ (spans_pure _)
    exact spans_seq (h.parts p hp).again fun _ => spans_pure _
  · exact spans_pure _

theorem lasts_enterNode {k : Kind} (hk : opensScope k = false) (ws : List Walk.Branch) :
    KeepsAt o (OnScope Lasts) (enterNode k ws) := by
  intro s a s' h
  have hscope := (entered_of_run h).scope
  rw [if_neg (by simp [hk])] at hscope
  unfold OnScope
  rw [hscope]
  exact Lasts.refl _

theorem spans_visitNode {k : Kind} (hk : opensScope k = false) {fs : List Tree} {ws : List Branch}
    (h : ∀ w ∈ ws, w.Spans o) : SpansAt o (visitNode k fs ws) := by
  have hS := stepsLasts o
  refine spans_seq (spans_lift (lasts_enterNode hk _)) fun _ => spans_seq ?_ fun _ => ?_
  · rw [visitFields, if_neg (by simp [hk])]
    exact spans_forM fun w hw => spans_visitField (h w hw)
  refine spans_seq (spans_lift (keeps_leaveFields hS k)) fun _ => ?_
  refine spans_seq (spans_lift (keeps_children hS)) fun cs => ?_
  exact spans_seq (spans_rule hk h cs) fun p => spans_lift (keeps_closeNode hS k p)

/-- In a node with a scope of its own the fields see what was visible where the node was entered, and
what the rule binds is visible after it. -/
theorem spans_opened {k : Kind} (hk : opensScope k = true) {fs : List Tree} {ws : List Branch}
    (h : ∀ w ∈ ws, w.Spans o) {p : Piece} {es : List Entry}
    (hrun : run (visitNode k fs ws).run o s = (.ok (p, es), s')) (hlasts : Lasts s.scope s'.scope) :
    Spans o s es s' := by
  obtain ⟨_, s1, henter, h1⟩ := run_step hrun
  obtain ⟨_, _, s2, _, hfields, h2, rfl⟩ := run_bind_tracked h1
  obtain ⟨_, s3, -, h3⟩ := run_step h2
  obtain ⟨cs, s4, -, h4⟩ := run_step h3
  obtain ⟨q, es4, s5, _, hrule, h5, rfl⟩ := run_bind_tracked h4
  obtain ⟨hclose, rfl⟩ := run_lift_tracked h5
  rw [visitFields, if_pos hk] at hfields
  obtain ⟨inner, hinner, rfl⟩ := run_enclosed hfields
  have hin : s1.scope = s.scope.enter := by
    rw [(entered_of_run henter).scope, if_pos hk]
  have hspans := spans_forM (fun w hw => spans_visitField (h w hw)) s1 _ inner s2 hinner
  obtain ⟨hshown, hseen⟩ := ends_rule hk ws cs s4 q es4 s5 hrule
  rw [List.append_nil]
  refine ⟨hlasts, hshown.lasts (keeps_closeNode (stepsLasts o) k q s5 p s' hclose), fun ks hks => ?_⟩
  refine .inside (hspans.seen ks ?_) (hseen ks)
  rw [hin]
  exact hks.enter

theorem forall_mem_walkAll {ts : List Tree} {P : Branch → Prop} (h : ∀ t ∈ ts, P (walk t)) :
    ∀ w ∈ walkAll ts, P w := by
  induction ts with
  | nil => simp [walkAll]
  | cons t ts ih =>
    intro w hw
    rcases List.mem_cons.1 hw with rfl | hw
    · exact h t (by simp)
    · exact ih (fun u hu => h u (by simp [hu])) w hw

theorem walk_spans (o : Options) (t : Tree) : (walk t).Spans o := by
  induction t using tree_induction with
  | missing => exact .mk (spans_throw _) (by simp)
  | atom a => exact .mk (spans_lift fun s p s' h => absurd h (visitOther_fails _ o s s' p)) (by simp)
  | list ts ih =>
    exact .mk (spans_lift fun s p s' h => absurd h (visitOther_fails _ o s s' p))
      (forall_mem_walkAll ih)
  | node k fs ih =>
    refine .mk ?_ (forall_mem_walkAll ih)
    by_cases hk : opensScope k = true
    · intro s p es s' h
      have hlasts : Lasts s.scope s'.scope :=
        (walk_scoped Scoped.ofLasts Specials.ofLasts (.node k fs)).again s p s'
          ((walk_erases (.node k fs)).again.run_of_tracked h)
      exact spans_opened hk (forall_mem_walkAll ih) h hlasts
    · exact spans_visitNode (by simpa using hk) (forall_mem_walkAll ih)

end

end Tracked

/-! The names of temporaries -/

mutual

/-- All temporaries, those drawn inside included. -/
def Entry.draws : Entry → List Draw
  | .drawn d => [d]
  | .bound _ => []
  | .inside _ es => drawsOf es

def drawsOf : List Entry → List Draw
  | [] => []
  | e :: es => e.draws ++ drawsOf es

end

theorem Seen.named {o : Options} {ks : List String} {es : List Entry} (h : Seen o ks es) :
    ∀ d ∈ drawsOf es, nameOf? d.piece = some (nameIn o d.key) := by
  induction h with
  | nil => simp [drawsOf]
  | drawn name _ _ ih => simpa [drawsOf, Entry.draws, name] using ih
  | bound _ ih => exact ih
  | inside _ _ ih ih' =>
    intro d hd
    rcases List.mem_append.1 hd with hd | hd
    · exact ih d hd
    · exact ih' d hd

/-- The temporaries have names, which are different from `ns` and from the names of those before
them; inside a function or a class also from the names of those before it around. -/
inductive Apart : List String → List Entry → Prop where
  | nil {ns : List String} : Apart ns []
  | drawn {ns : List String} {d : Draw} {n : String} {es : List Entry}
      (name : nameOf? d.piece = some n) (new : n ∉ ns) (rest : Apart (n :: ns) es) :
      Apart ns (.drawn d :: es)
  | bound {ns : List String} {n : String} {es : List Entry} (rest : Apart ns es) :
      Apart ns (.bound n :: es)
  | inside {ns : List String} {t : Tree} {inner es : List Entry} (within : Apart ns inner)
      (rest : Apart ns es) : Apart ns (.inside t inner :: es)

/-- The key of a temporary was bound by nothing before it. -/
theorem key_notMem {d : Draw} {ks : List String} (h : Visible d.scope ks) : d.key ∉ ks := by
  intro hmem
  have hfree : d.scope.hasKey (some d.key) = false := hasKey_fresh d.scope d.stem.text
  rw [h d.key hmem (isTemporary_key d).ne_init] at hfree
  cases hfree

theorem Seen.apart {o : Options} {ks ts : List String} {es : List Entry} (h : Seen o ks es)
    (hts : ∀ k ∈ ts, k ∈ ks ∧ IsTemporary k) : Apart (ts.map (nameIn o)) es := by
  induction h generalizing ts with
  | nil => exact .nil
  | @drawn ks d es name visible _ ih =>
    refine .drawn name (fun hmem => ?_) (ih (List.forall_mem_cons.2 ⟨?_, fun k hk => ?_⟩))
    · -- a name that stands already would be that of a key which was bound before
      obtain ⟨k, hk, hsame⟩ := List.mem_map.1 hmem
      have hkey : k = d.key := nameIn_inj (hts k hk).2 (isTemporary_key d) hsame
      exact key_notMem visible (hkey ▸ (hts k hk).1)
    · exact ⟨.head _, isTemporary_key d⟩
    · exact ⟨.tail _ (hts k hk).1, (hts k hk).2⟩
  | bound _ ih => exact .bound (ih fun k hk => ⟨.tail _ (hts k hk).1, (hts k hk).2⟩)
  | inside _ _ ih ih' => exact .inside (ih hts) (ih' hts)

theorem exists_seen {t : Tree} {o : Options} {s s' : State} {p : Piece}
    (h : run (visit t) o s = (.ok p, s')) :
    ∃ es, run (Tracked.visit t).run o s = (.ok (p, es), s') ∧ Seen o [] es := by
  obtain ⟨es, hrun⟩ := (Tracked.walk_erases t).again.exists_tracked h
  refine ⟨es, hrun, ((Tracked.walk_spans o t).again s p es s' hrun).seen [] ?_⟩
  exact fun k hk => absurd hk List.not_mem_nil

/-- No two temporaries of a function or a program are given one name, also in camel case, and one in
a nested function or class has the name of none that was drawn before around it. Where names are
taken as they are, a temporary has the least index whose name is not visible where it is drawn. -/
theorem temporaries_apart {t : Tree} {o : Options} {s s' : State} {p : Piece}
    (h : run (visit t) o s = (.ok p, s')) :
    ∃ es, run (Tracked.visit t).run o s = (.ok (p, es), s') ∧ Apart [] es ∧
      (o.camelCase = false → ∀ d ∈ drawsOf es, ∃ i,
        nameOf? d.piece = some (Scope.numbered d.stem.text i) ∧
          IsLeastFree d.scope d.stem.text i) := by
  obtain ⟨es, hrun, hseen⟩ := exists_seen h
  refine ⟨es, hrun, hseen.apart fun k hk => absurd hk List.not_mem_nil, fun ho d hd => ?_⟩
  obtain ⟨i, hi, hleast⟩ := exists_fresh d.scope d.stem.text
  refine ⟨i, ?_, hleast⟩
  rw [hseen.named d hd, Draw.key, nameIn, if_neg (by simp [ho]), hi]

/-- A loop in a loop. -/
def nestedLoops : Tree :=
  let name (n : String) : Tree := .node .name [.text n, .missing]
  .node .forStmt [name "row", name "rows", .list [
    .node .forStmt [name "cell", name "row", .list [.node .exprStmt [name "cell"]], .list []]],
    .list []]

theorem nestedLoops_apart : ∃ p s' es,
    run (visit nestedLoops) { camelCase := true } {} = (.ok p, s') ∧
      run (Tracked.visit nestedLoops).run { camelCase := true } {} = (.ok (p, es), s') ∧
      Apart [] es ∧
      (drawsOf es).filterMap (nameOf? ·.piece) = ["ref0", "ref1", "ref2", "ref3"] := by
  have hnames : (run (Tracked.visit nestedLoops).run { camelCase := true } {}).1.toOption.map
      (fun e => (drawsOf e.2).filterMap (nameOf? ·.piece)) =
        some ["ref0", "ref1", "ref2", "ref3"] := by decide +kernel
  have hok : (run (visit nestedLoops) { camelCase := true } {}).1.isOk = true := by decide +kernel
  rcases hr : run (visit nestedLoops) { camelCase := true } {} with ⟨c | p, s'⟩
  · rw [hr] at hok
    cases hok
  · obtain ⟨es, hrun, hapart, -⟩ := temporaries_apart hr
    rw [hrun] at hnames
    exact ⟨p, s', es, rfl, hrun, hapart, Option.some.inj hnames⟩

end Walk

end Transpile
