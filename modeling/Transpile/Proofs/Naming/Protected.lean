import Transpile.Proofs.Naming.Declared
import Transpile.Proofs.Naming.Targets
import Transpile.Proofs.Purity

/-! Special forms and the names that a program assigns to. A name that is bound under the key of a special
form makes the program fail, so what is left to be seen is under which key each kind of statement binds the
names that it writes to. Main statement: where all names with the identifier of a special form are bound
under its key, no statement but the first one for it assigns to the identifier. Names in lists of targets
and those of powers and floor divisions are not bound. -/

namespace Transpile.Walk

open Script Source

/-! What a program writes to -/

/-- Operators for which there is none in the script. -/
def isRewritten : Tree → Bool
  | .node (.op .pow) _ | .node (.op .floorDiv) _ => true
  | _ => false

/-- The names of a target, each with the key under which it is bound. Names in a list are not bound. -/
def targetKeys (o : Options) : Tree → List (String × Option String)
  | .node .name fs => (spelled (.node .name fs)).map fun n => (n, some (nameIn o n))
  | t => (spelled t).map fun n => (n, none)

/-- The names that a node writes to where it stands, each with the key under which it is bound. -/
def bindings (o : Options) : Kind → List Tree → List (String × Option String)
  | .assign, [.list ts, _] => ts.flatMap (targetKeys o)
  | .augAssign, [t, op, _] =>
    if isRewritten op then (spelled t).map fun n => (n, none) else targetKeys o t
  | .forStmt, t :: _ => targetKeys o t
  | .functionDef, .text n :: _ | .classDef, .text n :: _ => [(n, some n)]
  | _, _ => []

/-- Whether no assignment stands in the tree, functions and classes aside. -/
def isQuiet (t : Tree) : Bool := (surface t).all fun e => !isAssigning e.1

/-- Whether a node that makes assignments has the fields for it, and its decorators are expressions of
one piece each. -/
def isProper : Kind → List Tree → Bool
  | .assign, [.list ts, .node k _] => ts.all isTarget && isExpressionKind k
  | .augAssign, [t, _, _] | .forStmt, t :: _ => isTarget t && isSingle t
  | .functionDef, [_, _, _, .list ds, returns] =>
    ds.all (fun d => isSingle d && isQuiet d) && isQuiet returns
  | .whileStmt, _ | .classDef, _ => true
  | k, _ => !isAssigning k

/-! Names that may be assigned to -/

/-- The identifier of the key may be written to where the key is visible. -/
def Allowed (o : Options) (k : String) (sc : Scope) (n : String) : Prop :=
  n = nameIn o k → sc.hasKey (some k) = true

/-- A target that has the identifier of the key is the identifier, and the key is its value. -/
def Fair (o : Options) (k : String) (c : Piece) : Prop :=
  Names (nameIn o k) c → isIdentifier c = true ∧ nameIn o k = k

theorem enduring_allowed {o : Options} {k : String} (hk : k ≠ "__init__") :
    Enduring (Allowed o k) :=
  fun _ _ hab _ h hn => hab.hasKey hk (h hn)

section

variable {o : Options} {k : String} {s s' : State}

/-! Targets -/

theorem value_of_names {n : String} {p v : Piece} (h : Names n p) (hv : p.value = .ok v) :
    v = .text n := by
  cases h with
  | ident =>
    cases hv
    rfl
  | element => cases hv

theorem names_word {n m : String} (h : Names n (word m)) : n = m := by
  cases h
  rfl

theorem target_of_not_names {sc : Scope} {p : Piece} (hp : AssignsIn (Allowed o k sc) p)
    (h : ¬ Names (nameIn o k) p) : TargetIn (Allowed o k sc) p :=
  ⟨fun _ hn e => absurd (e ▸ hn) h, hp⟩

theorem bare_declared {p q : Piece} (h : run (declare p) o s = (.ok q, s')) : q.bare = p.bare := by
  unfold declare at h
  split at h
  · obtain ⟨_, s1, -, h⟩ := run_bind_ok h
    exact bare_declare (run_need h).1
  · exact bare_declare (run_need h).1

theorem bare_fresh {stem : String} {p : Piece} (h : run (fresh stem) o s = (.ok p, s')) :
    p.bare = word (nameIn o (s.scope.fresh stem)) := by
  obtain ⟨_, _, hget, h⟩ := run_bind_ok h
  cases hget
  obtain ⟨q, s1, hname, h⟩ := run_bind_ok h
  obtain ⟨r, s2, hsite, h⟩ := run_bind_ok h
  obtain ⟨_, s3, -, h⟩ := run_bind_ok h
  cases h
  rw [Tracked.run_sourceName_text] at hname
  cases hname
  exact bare_atSite hsite

/-- The name of a definition is bound under itself and written as the options want it. -/
theorem target_defined {name : Tree} (hname : ∀ n, name = .text n → nameIn o n = nameIn o k → n = k)
    {key id p q r : Piece} {s1 s2 s3 s4 : State} (hkey : run (atomField name) o s = (.ok key, s1))
    (hid : run (sourceName key) o s2 = (.ok id, s3)) (hr : r.bare = id.bare)
    (hbind : run (bindAs key p) o s4 = (.ok q, s')) : TargetIn (Allowed o k s'.scope) r := by
  refine ⟨fun n hn e => ?_, (assigns_sourceName key s2 id s3 hid).congr hr⟩
  obtain ⟨m, rfl, rfl⟩ := names_sourceName hid (hn.congr hr)
  obtain rfl := hname m (run_atomField_text hkey) e
  exact hasKey_bindAs hbind

section

variable (htemp : ∀ t, IsTemporary t → nameIn o t = nameIn o k → t = k)
include htemp

theorem target_fresh (st : Stem) {p : Piece} (h : run (fresh st.text) o s = (.ok p, s')) :
    TargetIn (Allowed o k s'.scope) p := by
  have hbare := bare_fresh h
  refine ⟨fun n hn e => ?_, (assignsIn_word _).congr hbare⟩
  rw [names_word (hn.congr hbare)] at e
  rw [(Tracked.run_fresh h).2, ← htemp _ (isTemporary_key ⟨st, s.scope, p⟩) e]
  exact hasKey_maps.2 (.inl (hasKey_put (.inr rfl)))

end

section

variable (hk : k ≠ "__init__")
include hk

/-- What was bound by its value is visible. -/
theorem target_bind {p q : Piece} (hp : AssignsIn (Allowed o k s.scope) p) (hfair : Fair o k p)
    (h : run (Walk.bind p) o s = (.ok q, s')) : TargetIn (Allowed o k s'.scope) q := by
  have hlast : Lasts s.scope s'.scope := keeps_bindByValue (Tracked.stepsLasts o) p s q s' h
  refine ⟨fun n hn e => ?_, (hp.congr (bare_bind h)).mono (enduring_allowed hk hlast)⟩
  subst e
  have hn := hn.congr (bare_bind h)
  obtain ⟨v, s1, hv, h⟩ := run_bind_ok h
  have hkey := hasKey_bindAs h
  rw [value_of_names hn (run_need hv).1, (hfair hn).2] at hkey
  exact hkey

/-- A target that is bound if it is an identifier. -/
theorem target_bound {p : Piece} {β : Type} {f : Piece → Walker β} {b : β}
    (hp : AssignsIn (Allowed o k s.scope) p) (hfair : Fair o k p)
    (h : run (if isIdentifier p then Walk.bind p >>= f else pure p >>= f) o s = (.ok b, s')) :
    ∃ q s1, Lasts s.scope s1.scope ∧ TargetIn (Allowed o k s1.scope) q ∧
      run (f q) o s1 = (.ok b, s') := by
  split_ifs at h with hident
  · obtain ⟨q, s1, hbind, h⟩ := run_bind_ok h
    exact ⟨q, s1, keeps_bindByValue (Tracked.stepsLasts o) p s q s1 hbind,
      target_bind hk hp hfair hbind, h⟩
  · exact ⟨p, s, Lasts.refl _, target_of_not_names hp fun hn => hident (hfair hn).1, h⟩

end

end

/-! Assignments -/

theorem target_element {A : String → Prop} {p q : Piece} {items : List Piece} (hp : TargetIn A p)
    (hitems : arrayParts? p = some items) (hq : q ∈ items) : TargetIn A q := by
  unfold arrayParts? at hitems
  split at hitems
  · next seq m =>
    cases hitems
    have hmem : q ∈ seq.pieces := by
      have hparts := (List.mem_filter.1 hq).1
      cases seq with
      | items xs => exact hparts
      | spread host xs => exact List.mem_cons_of_mem _ hparts
      | single host => cases hparts
    exact ⟨fun n hn => hp.names n (.element hmem hn), hp.assigns.inner q hmem⟩
  · cases hitems

theorem assigns_unpack {A : String → Prop} {source : Piece} (hs : AssignsIn A source)
    {items : List Piece} (hi : ∀ q ∈ items, TargetIn A q) :
    ∀ p ∈ unpack source items, AssignsIn A p := by
  intro p hp
  obtain ⟨e, he, rfl⟩ := List.mem_map.1 hp
  refine assignsIn_statement (assignsIn_assignTo _ (hi e.1 ?_) ?_)
  · exact List.fst_mem_of_mem_zipIdx he
  · exact assignsIn_pair rfl rfl hs (assignsIn_leaf _ _ _)

section

variable {o : Options} {k : String} {s s' : State} (hk : k ≠ "__init__")
  (htemp : ∀ t, IsTemporary t → nameIn o t = nameIn o k → t = k)
include hk htemp

theorem assigns_placeTarget {value t : Piece} {extras : List Piece} {e : Piece × List Piece}
    (ht : TargetIn (Allowed o k s.scope) t) (hx : ∀ p ∈ extras, AssignsIn (Allowed o k s.scope) p)
    (h : run (placeTarget value extras t) o s = (.ok e, s')) :
    Lasts s.scope s'.scope ∧ TargetIn (Allowed o k s'.scope) e.1 ∧
      ∀ p ∈ e.2, AssignsIn (Allowed o k s'.scope) p := by
  have hlast : Lasts s.scope s'.scope :=
    keeps_placeTarget (Tracked.stepsLasts o) value extras t s e s' h
  have hgrow := enduring_allowed (o := o) hk hlast
  refine ⟨hlast, ?_⟩
  unfold placeTarget at h
  split at h
  · next items _ hitems _ =>
    obtain ⟨r, s1, hfresh, h⟩ := run_bind_ok h
    cases h
    have hr : TargetIn (Allowed o k s'.scope) r := target_fresh htemp .parts hfresh
    refine ⟨hr, fun p hp => ?_⟩
    rcases List.mem_append.1 hp with hp | hp
    · exact (hx p hp).mono hgrow
    · exact assigns_unpack hr.assigns (fun q hq => target_element (ht.mono hgrow) hitems hq) p hp
  · cases h
    exact ⟨ht, hx⟩

theorem assigns_assignTargets {value chain : Piece} {ts extras : List Piece}
    (hts : ∀ t ∈ ts, AssignsIn (Allowed o k s.scope) t ∧ Fair o k t)
    (hv : AssignsIn (Allowed o k s.scope) value) (hc : AssignsIn (Allowed o k s.scope) chain)
    (hx : ∀ p ∈ extras, AssignsIn (Allowed o k s.scope) p) {e : Piece × List Piece}
    (h : run (assignTargets value ts chain extras) o s = (.ok e, s')) :
    AssignsIn (Allowed o k s'.scope) e.1 ∧ ∀ p ∈ e.2, AssignsIn (Allowed o k s'.scope) p := by
  induction ts generalizing s chain extras with
  | nil =>
    cases h
    exact ⟨hc, hx⟩
  | cons t ts ih =>
    rw [assignTargets_cons] at h
    obtain ⟨ht, hfair⟩ := hts t (by simp)
    have hsource : AssignsIn (Allowed o k s.scope) (if chain.isAbsent then value else chain) := by
      split_ifs
      · exact hv
      · exact hc
    obtain ⟨q, s1, hlast1, hq, h⟩ := target_bound hk ht hfair h
    obtain ⟨e', s2, hplace, h⟩ := run_bind_ok h
    obtain ⟨hlast2, htarget, hextras⟩ := assigns_placeTarget hk htemp hq
      (fun p hp => (hx p hp).mono (enduring_allowed hk hlast1)) hplace
    have hgrow := enduring_allowed (o := o) hk (hlast1.trans hlast2)
    exact ih (fun u hu => ⟨(hts u (by simp [hu])).1.mono hgrow, (hts u (by simp [hu])).2⟩)
      (hv.mono hgrow) (assignsIn_assignTo _ htarget (hsource.mono hgrow)) hextras h

theorem assigns_assignRule {cs : List Piece} (hcs : ∀ c ∈ cs, AssignsIn (Allowed o k s.scope) c)
    (hfair : ∀ t ∈ cs.dropLast, Fair o k t) {p : Piece} (h : run (assignRule cs) o s = (.ok p, s')) :
    AssignsIn (Allowed o k s'.scope) p := by
  unfold assignRule at h
  split at h
  · cases h
  · next value hvalue =>
    obtain ⟨⟨chain, extras⟩, s1, htargets, h⟩ := run_bind_ok h
    have htarget (t : Piece) (ht : t ∈ cs.dropLast.reverse) :
        AssignsIn (Allowed o k s.scope) t ∧ Fair o k t := by
      rw [List.mem_reverse] at ht
      exact ⟨hcs t (List.mem_of_mem_dropLast ht), hfair t ht⟩
    obtain ⟨hchain, hextras⟩ := assigns_assignTargets hk htemp htarget
      (hcs value (List.mem_of_getLast? hvalue)) assignsIn_absent (by simp) htargets
    dsimp only at h
    split_ifs at h
    · cases h
      exact assignsIn_statement hchain
    · cases h
      exact assignsIn_splice (List.forall_mem_cons.2 ⟨assignsIn_statement hchain, hextras⟩)

omit hk htemp in
theorem isRewritten_of_run {op : Tree} {b : Option Op} (h : run (operatorOf op) o s = (.ok b, s')) :
    s' = s ∧ (b = some .pow ∨ b = some .floorDiv → isRewritten op = true) := by
  obtain ⟨t, s1, hgiven, hmatch⟩ := run_bind_ok h
  obtain ⟨rfl, rfl⟩ := run_given hgiven
  split at hmatch
  · cases hmatch
    refine ⟨rfl, ?_⟩
    rintro (hb | hb) <;> cases hb <;> rfl
  · cases hmatch
    refine ⟨rfl, ?_⟩
    rintro (hb | hb) <;> cases hb

omit htemp in
theorem assigns_augmentRule {op : Tree} {cs : List Piece}
    (hcs : ∀ c ∈ cs, AssignsIn (Allowed o k s.scope) c) (hfair : ∀ c, cs[0]? = some c → Fair o k c)
    (hloose : isRewritten op = true → ∀ c, cs[0]? = some c → ¬ Names (nameIn o k) c) {p : Piece}
    (h : run (augmentRule op cs) o s = (.ok p, s')) : AssignsIn (Allowed o k s'.scope) p := by
  obtain ⟨target, s1, htarget, h1⟩ := run_bind_ok h
  obtain ⟨b, s2, hop, h2⟩ := run_bind_ok h1
  clear h h1
  obtain ⟨hfirst, rfl⟩ := run_child htarget
  obtain ⟨rfl, hb⟩ := isRewritten_of_run hop
  have hx : AssignsIn (Allowed o k s2.scope) target := hcs target (List.mem_of_getElem? hfirst)
  -- an operator that the script lacks is joined to the target by a function
  have hjoined {f : Piece → Piece → Piece} (hrewritten : isRewritten op = true)
      (hf : ∀ l r, AssignsIn (Allowed o k s2.scope) l → AssignsIn (Allowed o k s2.scope) r →
        AssignsIn (Allowed o k s2.scope) (f l r))
      (h : run (do return statement (assignTo "=" target (← augmented f target cs))) o s2 =
        (.ok p, s')) : AssignsIn (Allowed o k s'.scope) p := by
    obtain ⟨q, s3, hjoin, h⟩ := run_bind_ok h
    obtain ⟨value, s4, hchild, hq⟩ := run_bind_ok hjoin
    cases h
    cases hq
    obtain ⟨hsecond, rfl⟩ := run_child hchild
    exact assignsIn_statement (assignsIn_assignTo _
      (target_of_not_names hx (hloose hrewritten target hfirst))
      (hf _ _ hx (hcs value (List.mem_of_getElem? hsecond))))
  split at h2
  · exact hjoined (hb (.inl rfl)) (fun _ _ => assignsIn_powerOf) h2
  · exact hjoined (hb (.inr rfl)) (fun _ _ => assignsIn_floorOf) h2
  · obtain ⟨sign, s3, hsign, h3⟩ := run_bind_ok h2
    obtain ⟨value, s4, hvalue, h4⟩ := run_bind_ok h3
    clear h2 h3
    obtain ⟨-, rfl⟩ := run_child hsign
    obtain ⟨hsecond, rfl⟩ := run_child hvalue
    obtain ⟨q, s5, hlast, hq, h5⟩ := target_bound hk hx (hfair target hfirst) h4
    have hv := (hcs value (List.mem_of_getElem? hsecond)).mono (enduring_allowed hk hlast)
    split at h5
    · cases h5
      exact assignsIn_statement (assignsIn_assignTo _ hq hv)
    · cases h5

theorem assigns_whileRule {body orelse : Tree} {cs : List Piece}
    (hcs : ∀ c ∈ cs, AssignsIn (Allowed o k s.scope) c) {p : Piece}
    (h : run (whileRule body orelse cs) o s = (.ok p, s')) : AssignsIn (Allowed o k s'.scope) p := by
  obtain ⟨test, s1, htest, h1⟩ := run_bind_ok h
  obtain ⟨n, s2, hsize, h2⟩ := run_bind_ok h1
  obtain ⟨t, s3, hgiven, h3⟩ := run_bind_ok h2
  have hlast : Lasts s.scope s3.scope :=
    (keeps_child (Tracked.stepsLasts o) cs 0 s test s1 htest).trans <|
    (keeps_sizeOfField (Tracked.stepsLasts o) body s1 n s2 hsize).trans
      (keeps_given (Tracked.stepsLasts o) orelse s2 t s3 hgiven)
  have hmem := (run_child htest).1
  clear h h1 h2
  have htest : AssignsIn (Allowed o k s.scope) test := hcs test (List.mem_of_getElem? hmem)
  have hinner : ∀ c ∈ (cs.drop 1).take n, AssignsIn (Allowed o k s.scope) c :=
    fun c hc => hcs c (List.mem_of_mem_drop (List.mem_of_mem_take hc))
  split_ifs at h3
  · obtain ⟨flag, s4, hflag, h4⟩ := run_bind_ok h3
    cases h4
    have hgrow := enduring_allowed (o := o) hk
      (hlast.trans (keeps_fresh (Tracked.stepsLasts o) _ s3 flag s' hflag))
    have hf : TargetIn (Allowed o k s'.scope) flag := target_fresh htemp .loop hflag
    have hset (b : String) :
        AssignsIn (Allowed o k s'.scope) (statement (assignTo "=" flag (leaf .boolean b))) :=
      assignsIn_statement (assignsIn_assignTo _ hf (assignsIn_leaf _ _ _))
    have hloop : AssignsIn (Allowed o k s'.scope) (block (statement (assignTo "=" flag
        (leaf .boolean "false")) :: (cs.drop 1).take n)) :=
      assignsIn_block (List.forall_mem_cons.2 ⟨hset _, fun c hc => (hinner c hc).mono hgrow⟩)
    have hrest : AssignsIn (Allowed o k s'.scope) (block (cs.drop (n + 1))) :=
      assignsIn_block fun c hc => (hcs c (List.mem_of_mem_drop hc)).mono hgrow
    refine assignsIn_splice ?_
    simp only [List.forall_mem_cons, List.not_mem_nil, false_imp_iff, implies_true, and_true]
    exact ⟨hset _, assignsIn_pair rfl rfl (htest.mono hgrow) hloop,
      assignsIn_triple rfl rfl hf.assigns hrest assignsIn_absent⟩
  · cases h3
    have hgrow := enduring_allowed (o := o) hk hlast
    exact assignsIn_pair rfl rfl (htest.mono hgrow)
      (assignsIn_block fun c hc => (hinner c hc).mono hgrow)

theorem assigns_forRule {cs : List Piece} (hcs : ∀ c ∈ cs, AssignsIn (Allowed o k s.scope) c)
    (hfair : ∀ c, cs[0]? = some c → Fair o k c) {p : Piece}
    (h : run (forRule cs) o s = (.ok p, s')) : AssignsIn (Allowed o k s'.scope) p := by
  have hsteps := Tracked.stepsLasts o
  obtain ⟨i, s1, hi, h1⟩ := run_bind_ok h
  obtain ⟨values, s2, hvalues, h2⟩ := run_bind_ok h1
  obtain ⟨item, s3, hitem, h3⟩ := run_bind_ok h2
  obtain ⟨source, s4, hsource, h4⟩ := run_bind_ok h3
  obtain ⟨body, s5, hbody, h5⟩ := run_bind_ok h4
  obtain ⟨d, s6, hd, h6⟩ := run_bind_ok h5
  obtain ⟨target, s7, hbind, h7⟩ := run_bind_ok h6
  cases h7
  clear h h1 h2 h3 h4 h5 h6
  obtain ⟨hfirst, rfl⟩ := run_child hitem
  obtain ⟨hsecond, rfl⟩ := run_child hsource
  obtain ⟨hthird, rfl⟩ := run_child hbody
  have hlast1 : Lasts s.scope s1.scope := keeps_fresh hsteps _ s i s1 hi
  have hlast2 : Lasts s1.scope s5.scope := keeps_fresh hsteps _ s1 values s5 hvalues
  have hlast3 : Lasts s5.scope s6.scope := keeps_declaration hsteps _ _ s5 d s6 hd
  have hlast4 : Lasts s6.scope s'.scope := keeps_bindByValue hsteps item s6 target s' hbind
  have hgrow {a : Scope} (hlast : Lasts a s'.scope) := enduring_allowed (o := o) hk hlast
  have hstart := (hlast1.trans hlast2).trans hlast3
  have hend := hstart.trans hlast4
  have hindex : TargetIn (Allowed o k s'.scope) i :=
    (target_fresh htemp .loop hi).mono (hgrow ((hlast2.trans hlast3).trans hlast4))
  have hlist : TargetIn (Allowed o k s'.scope) values :=
    (target_fresh htemp .loop hvalues).mono (hgrow (hlast3.trans hlast4))
  have htarget : TargetIn (Allowed o k s'.scope) target :=
    target_bind hk ((hcs item (List.mem_of_getElem? hfirst)).mono (enduring_allowed hk hstart))
      (hfair item hfirst) hbind
  have hsource := (hcs source (List.mem_of_getElem? hsecond)).mono (hgrow hend)
  have hbody := (hcs body (List.mem_of_getElem? hthird)).mono (hgrow hend)
  have hcount : AssignsIn (Allowed o k s'.scope)
      (Form.unary (text "++") i (.atom (.flag true))).piece :=
    assignsIn_node (List.forall_mem_singleton.2 hindex.names)
      (by simp [Form.inner, Form.pieces, assignsIn_text, hindex.assigns, assignsIn_atom])
  have htake : AssignsIn (Allowed o k s'.scope)
      (statement (assignTo "=" target (Form.bracket values i).piece)) :=
    assignsIn_statement (assignsIn_assignTo _ htarget
      (assignsIn_pair rfl rfl hlist.assigns hindex.assigns))
  have hbegin : AssignsIn (Allowed o k s'.scope)
      (Form.comma (assignTo "=" i (leaf .number "0")) (assignTo "=" values source)).piece :=
    assignsIn_pair rfl rfl (assignsIn_assignTo _ hindex (assignsIn_leaf _ _ _))
      (assignsIn_assignTo _ hlist hsource)
  have htest := assignsIn_binary "<" hindex.assigns (assignsIn_dot hlist.assigns "length")
  refine assignsIn_of_inner rfl ?_
  simp only [Form.inner, Form.pieces, List.forall_mem_cons, List.not_mem_nil, false_imp_iff,
    implies_true, and_true]
  exact ⟨hbegin, htest, hcount, assignsIn_block (by simp [htake, hbody])⟩

omit hk htemp in
/-- A function is written to its name, and so is what its decorators give. -/
theorem assigns_defineFunction {name : Tree}
    (hname : ∀ n, name = .text n → nameIn o n = nameIn o k → n = k) {cs vars : List Piece} {n : Nat}
    (happlied : ∀ c ∈ lastOf n cs, ∀ A, AssignsIn A c) {p : Piece}
    (h : run (defineFunction name cs vars n) o s = (.ok p, s')) :
    AssignsIn (Allowed o k s'.scope) p := by
  unfold defineFunction at h
  generalize he : (if n = 0 then (cs.drop 1, []) else ((butLast n cs).drop 1, lastOf n cs)) = e at h
  have hds : ∀ c ∈ e.2, AssignsIn (Allowed o k s'.scope) c := by
    rw [← he]
    split_ifs
    · simp
    · exact fun c hc => happlied c hc _
  obtain ⟨body, applied⟩ := e
  obtain ⟨key, s1, hkey, h⟩ := run_bind_ok h
  obtain ⟨id, s2, hid, h⟩ := run_bind_ok h
  obtain ⟨id', s3, hdeclare, h⟩ := run_bind_ok h
  obtain ⟨params, s4, -, h⟩ := run_bind_ok h
  obtain ⟨f, s5, hf, h⟩ := run_bind_ok h
  obtain ⟨_, s6, -, h⟩ := run_bind_ok h
  obtain ⟨_, s7, hbind, h⟩ := run_bind_ok h
  have hid : TargetIn (Allowed o k s7.scope) id' :=
    target_defined hname hkey hid (bare_declared hdeclare) hbind
  have hf : AssignsIn (Allowed o k s7.scope) f := assigns_functionOf _ _ s4 f s5 hf
  have hdefinition : AssignsIn (Allowed o k s7.scope) (statement (Form.varDecl id' f).piece) := by
    refine assignsIn_statement (assignsIn_node (fun q hq => ?_) (List.forall_mem_singleton.2 hf))
    rw [Form.written] at hq
    split_ifs at hq
    · cases hq
    · rw [List.mem_singleton.1 hq]
      exact hid.names
  split at h
  · cases h
    exact hdefinition
  · cases h
    refine assignsIn_splice (List.forall_mem_cons.2 ⟨hdefinition, fun q hq => ?_⟩)
    obtain ⟨d, hd, rfl⟩ := List.mem_map.1 (List.mem_reverse.1 hq)
    exact assignsIn_statement (assignsIn_assignTo _ hid
      (assignsIn_callOf (hds d hd) (List.forall_mem_singleton.2 hid.assigns)))

omit hk htemp in
theorem assigns_functionRule {name : Tree}
    (hname : ∀ n, name = .text n → nameIn o n = nameIn o k → n = k) {ds : List Tree}
    {cs : List Piece} (happlied : ∀ c ∈ lastOf ds.length cs, ∀ A, AssignsIn A c) {p : Piece}
    (h : run (functionRule name (.list ds) cs) o s = (.ok p, s')) :
    AssignsIn (Allowed o k s'.scope) p := by
  rw [functionRule_eq] at h
  obtain ⟨vars, s1, -, h⟩ := run_bind_ok h
  obtain ⟨n, s2, hcount, h⟩ := run_bind_ok h
  have hn : n = ds.length := by
    cases ds with
    | nil =>
      cases hcount
      rfl
    | cons d ds =>
      cases hcount
      rfl
  subst hn
  exact assigns_defineFunction hname happlied h

omit hk htemp in
/-- A class is written to its name; all else stands in its function. -/
theorem assigns_classRule {name : Tree}
    (hname : ∀ n, name = .text n → nameIn o n = nameIn o k → n = k) {cs : List Piece} {p : Piece}
    (h : run (classRule name cs) o s = (.ok p, s')) : AssignsIn (Allowed o k s'.scope) p := by
  rw [classRule_eq] at h
  obtain ⟨e, s1, -, h⟩ := run_bind_ok h
  obtain ⟨_, s2, -, h⟩ := run_bind_ok h
  obtain ⟨c, s3, -, h⟩ := run_bind_ok h
  obtain ⟨vars, s4, -, h⟩ := run_bind_ok h
  obtain ⟨closure, s5, hclosure, h⟩ := run_bind_ok h
  obtain ⟨key, s6, hkey, h⟩ := run_bind_ok h
  obtain ⟨id, s7, hid, h⟩ := run_bind_ok h
  obtain ⟨_, s8, -, h⟩ := run_bind_ok h
  obtain ⟨id', s9, hbind, h⟩ := run_bind_ok h
  cases h
  have hid : TargetIn (Allowed o k s'.scope) id' :=
    target_defined hname hkey hid (bare_bindAs hbind) hbind
  have hclosure : AssignsIn (Allowed o k s'.scope) closure := assigns_functionOf _ _ s4 closure s5 hclosure
  exact assignsIn_statement (assignsIn_assignTo _ hid
    (assignsIn_callOf (assignsIn_inParens hclosure) (by simp)))

end

/-! Nodes -/

section

variable {o : Options} {k : String}

/-- Without assignments in a tree there are none in its pieces. -/
theorem quiet_recorded {t : Tree} (ht : isQuiet t = true) {rs : List Record} (h : Recorded o t rs)
    {c : Piece} (hc : c ∈ nodesOf rs) (A : String → Prop) : AssignsIn A c := by
  have hA : Enduring fun _ _ => False := fun _ _ _ _ => id
  have hvisit : ∀ u ∈ nodesIn t, Assigning o (fun _ _ => False) (visit u) := by
    intro u hu
    refine visit_assigning hA (fun k fs hk (hfit : isAssigning k = false) => ?_) u fun e he => ?_
    · rw [hk] at hfit
      cases hfit
    · simpa using List.all_eq_true.1 ht e (mem_surface_of_nodesIn hu he)
  obtain ⟨s, s', hs, h⟩ := h
  obtain ⟨-, hall⟩ := assigns_recordsOf hA hvisit hs h
  obtain ⟨r, hr, hc⟩ := List.mem_flatMap.1 hc
  exact (assignsIn_spliced (hall r hr) c hc).mono fun _ => False.elim

theorem unnamed_recorded {t : Tree} (ht : isTarget t = true)
    (hkeys : ∀ b ∈ (spelled t).map fun n => (n, (none : Option String)),
      nameIn o b.1 = nameIn o k → b.2 = some k) {rs : List Record}
    (h : Recorded o t rs) {c : Piece} (hc : c ∈ nodesOf rs) : ¬ Names (nameIn o k) c := by
  intro hn
  obtain ⟨m, hm, he⟩ := names_recorded ht h hc hn
  cases hkeys _ (List.mem_map_of_mem hm) he.symm

theorem fair_recorded {t : Tree} (ht : isTarget t = true)
    (hkeys : ∀ b ∈ targetKeys o t, nameIn o b.1 = nameIn o k → b.2 = some k) {rs : List Record}
    (h : Recorded o t rs) {c : Piece} (hc : c ∈ nodesOf rs) : Fair o k c := by
  intro hn
  unfold targetKeys at hkeys
  split at hkeys
  · obtain ⟨hident, m, hm, he⟩ := names_recorded_name h hc hn
    have hkey := hkeys _ (List.mem_map_of_mem hm) he.symm
    exact ⟨hident, he.trans (Option.some.inj hkey)⟩
  · exact absurd hn (unnamed_recorded ht hkeys h hc)

/-- The first piece of a node whose first field gives one is the piece of that field. -/
theorem first_recorded {t : Tree} (ht : isSingle t = true) {rs : List Record} (h : Recorded o t rs)
    (rss : List (List Record)) (c : Piece) (hc : (nodesOf (rs :: rss).flatten)[0]? = some c) :
    c ∈ nodesOf rs := by
  obtain ⟨d, hd⟩ := single_recorded ht h
  rw [List.flatten_cons, nodesOf_append, hd] at hc
  cases hc
  rw [hd]
  exact List.mem_singleton_self _

theorem length_nodesOf_singles {ds : List Tree} (hds : ∀ d ∈ ds, isSingle d = true)
    {rs : List Record} (h : Recorded o (.list ds) rs) : (nodesOf rs).length = ds.length := by
  have hnode : ds.filter Tree.isNode = ds := by
    refine List.filter_eq_self.2 fun d hd => ?_
    have hsingle := hds d hd
    unfold isSingle at hsingle
    split at hsingle <;> first | rfl | cases hsingle
  have hall := recorded_list h
  rw [hnode] at hall
  clear h hnode
  induction hall with
  | nil => rfl
  | @cons d r ds rs hr _ ih =>
    obtain ⟨c, hc⟩ := single_recorded (hds d (by simp)) hr
    rw [nodesOf_cons, nodesOf_nil, List.append_nil] at hc
    rw [nodesOf_cons, hc, List.singleton_append, List.length_cons, List.length_cons,
      ih fun d hd => hds d (by simp [hd])]

theorem mem_lastOf_append {n : Nat} {front last : List Piece} (hn : n ≤ last.length) {c : Piece}
    (hc : c ∈ lastOf n (front ++ last)) : c ∈ last := by
  rw [lastOf, List.length_append, Nat.add_sub_assoc hn, List.drop_length_add_append] at hc
  exact List.mem_of_mem_drop hc

theorem mem_of_mem_dropLast_append {front last : List Piece} (hlast : last.length ≤ 1) {c : Piece}
    (hc : c ∈ (front ++ last).dropLast) : c ∈ front := by
  rcases last with _ | ⟨y, _ | ⟨_, _⟩⟩
  · simpa using List.mem_of_mem_dropLast hc
  · simpa using hc
  · simp at hlast

/-- The names that the node writes to have the identifier of the key only under the key. -/
def Guards (o : Options) (k : String) (kind : Kind) (fs : List Tree) : Prop :=
  isProper kind fs = true ∧ ∀ b ∈ bindings o kind fs, nameIn o b.1 = nameIn o k → b.2 = some k

instance (kind : Kind) (fs : List Tree) : Decidable (Guards o k kind fs) :=
  inferInstanceAs (Decidable (_ ∧ _))

variable (hk : k ≠ "__init__") (htemp : ∀ t, IsTemporary t → nameIn o t = nameIn o k → t = k)
include hk htemp

/-- What each node that makes assignments writes to. -/
theorem assigns_node {kind : Kind} {fs : List Tree} (hkind : isAssigning kind = true)
    (hg : Guards o k kind fs) {rss : List (List Record)} (hrec : List.Forall₂ (Recorded o) fs rss)
    {s s' : State} {p : Piece}
    (hcs : kind ≠ .functionDef → kind ≠ .classDef →
      ∀ c ∈ nodesOf rss.flatten, AssignsIn (Allowed o k s.scope) c)
    (h : run (rule kind (walkAll fs) (nodesOf rss.flatten)) o s = (.ok p, s')) :
    AssignsIn (Allowed o k s'.scope) p := by
  obtain ⟨hproper, hkeys⟩ := hg
  have hsimple : isSimple kind = true := by cases kind <;> first | rfl | cases hkind
  rw [rule_walkAll hsimple] at h
  unfold isProper at hproper
  split at hproper
  · next ts kd vs =>
    rw [Bool.and_eq_true, List.all_eq_true] at hproper
    simp only [List.forall₂_cons_left_iff, List.forall₂_nil_left_iff] at hrec
    obtain ⟨rs, _, hts, ⟨vals, _, hv, rfl, rfl⟩, rfl⟩ := hrec
    refine assigns_assignRule hk htemp (hcs (by simp) (by simp)) (fun c hc => ?_) h
    simp only [List.flatten_cons, List.flatten_nil, List.append_nil, nodesOf_append] at hc
    have hc := mem_of_mem_dropLast_append (length_nodesOf_expression hproper.2 hv) hc
    obtain ⟨r, hr, hc⟩ := List.mem_flatMap.1 hc
    obtain ⟨t, ht, hr⟩ := forall₂_right (recorded_list hts) hr
    have hmem := (List.mem_filter.1 ht).1
    exact fair_recorded (hproper.1 t hmem)
      (fun b hb => hkeys b (List.mem_flatMap.2 ⟨t, hmem, hb⟩)) hr (by simpa using hc)
  · next t op v =>
    rw [Bool.and_eq_true] at hproper
    obtain ⟨rs, rss, ht, -, rfl⟩ := List.forall₂_cons_left_iff.1 hrec
    have hfirst := first_recorded hproper.2 ht rss
    refine assigns_augmentRule hk (hcs (by simp) (by simp)) (fun c hc => ?_) (fun hop c hc => ?_) h
    · cases hop : isRewritten op with
      | true =>
        rw [bindings, if_pos hop] at hkeys
        exact fun hn => absurd hn (unnamed_recorded hproper.1 hkeys ht (hfirst c hc))
      | false =>
        rw [bindings, if_neg (by simp [hop])] at hkeys
        exact fair_recorded hproper.1 hkeys ht (hfirst c hc)
    · rw [bindings, if_pos hop] at hkeys
      exact unnamed_recorded hproper.1 hkeys ht (hfirst c hc)
  · next t fs =>
    rw [Bool.and_eq_true] at hproper
    obtain ⟨rs, rss, ht, -, rfl⟩ := List.forall₂_cons_left_iff.1 hrec
    have hfirst := first_recorded hproper.2 ht rss
    exact assigns_forRule hk htemp (hcs (by simp) (by simp))
      (fun c hc => fair_recorded hproper.1 hkeys ht (hfirst c hc)) h
  · next name params body ds returns =>
    simp only [Bool.and_eq_true, List.all_eq_true] at hproper
    simp only [List.forall₂_cons_left_iff, List.forall₂_nil_left_iff] at hrec
    obtain ⟨rn, _, -, ⟨rp, _, -, ⟨rb, _, -, ⟨rd, _, hds, ⟨rr, _, hr, rfl, rfl⟩, rfl⟩, rfl⟩, rfl⟩, rfl⟩ :=
      hrec
    refine assigns_functionRule (fun n hn he => ?_) (fun c hc A => ?_) h
    · subst hn
      exact Option.some.inj (hkeys (n, some n) (List.mem_singleton_self _) he)
    · have hlen : ds.length ≤ (nodesOf rd ++ nodesOf rr).length := by
        rw [List.length_append, length_nodesOf_singles (fun d hd => (hproper.1 d hd).1) hds]
        omega
      simp only [List.flatten_cons, List.flatten_nil, List.append_nil, nodesOf_append,
        ← List.append_assoc] at hc
      rw [List.append_assoc] at hc
      rcases List.mem_append.1 (mem_lastOf_append hlen hc) with hc | hc
      · obtain ⟨r, hr, hc⟩ := List.mem_flatMap.1 hc
        obtain ⟨d, hd, hr⟩ := forall₂_right (recorded_list hds) hr
        exact quiet_recorded (hproper.1 d (List.mem_filter.1 hd).1).2 hr (by simpa using hc) A
      · exact quiet_recorded hproper.2 hr hc A
  · match fs with
    | [_, body, orelse] => exact assigns_whileRule hk htemp (hcs (by simp) (by simp)) h
    | [] | [_] | [_, _] | _ :: _ :: _ :: _ :: _ =>
      cases h
      exact assignsIn_absent
  · match fs with
    | name :: _ =>
      refine assigns_classRule (fun n hn he => ?_) h
      subst hn
      exact Option.some.inj (hkeys (n, some n) (List.mem_singleton_self _) he)
    | [] =>
      cases h
      exact assignsIn_absent
  · rw [hkind] at hproper
    cases hproper

end

/-! Special forms -/

/-- A special form with its value, if it was imported. -/
def special (name : Option String) (value : Piece) : List (String × Piece) :=
  (name.toList.filter fun k => !k.isEmpty).map fun k => (k, value)

/-- The special forms that were imported, in the order of their statements. -/
def specials (s : State) : List (String × Piece) :=
  special s.newName (leaf .string constructorHelper) ++ special s.globalName (word "this")

/-- The statement that gives a special form its value. -/
def Starts (o : Options) (e : String × Piece) (q : Piece) : Prop :=
  ∃ id, id.bare = word (nameIn o e.1) ∧ q = statement (assignTo "=" id e.2)

section

variable {o : Options} {s s' : State}

theorem untouched_atSite {p q : Piece} (h : run (atSite p) o s = (.ok q, s')) : Untouched s s' := by
  unfold atSite at h
  split at h
  · obtain ⟨_, _, hget, h⟩ := run_bind_ok h
    obtain ⟨_, _, hmodify, h⟩ := run_bind_ok h
    cases hget
    cases hmodify
    cases h
    exact ⟨rfl, rfl, rfl⟩
  · cases h
    exact .refl _

theorem untouched_declare {p q : Piece} (h : run (declare p) o s = (.ok q, s')) : Untouched s s' := by
  unfold declare at h
  split at h
  · obtain ⟨_, _, hmodify, h⟩ := run_bind_ok h
    cases hmodify
    obtain ⟨-, rfl⟩ := run_need h
    exact ⟨rfl, rfl, rfl⟩
  · obtain ⟨-, rfl⟩ := run_need h
    exact .refl _

/-- Names that are declared are not assigned to. -/
theorem run_declarations {ps ds : List Piece}
    (h : run (ps.mapM fun p => declaration p .absent) o s = (.ok ds, s')) :
    Untouched s s' ∧ ∀ d ∈ ds, ∀ A, AssignsIn A d := by
  induction ps generalizing s ds with
  | nil =>
    cases h
    exact ⟨.refl _, by simp⟩
  | cons p ps ih =>
    rw [List.mapM_cons] at h
    obtain ⟨d, s1, hd, h⟩ := run_bind_ok h
    obtain ⟨ds', s2, hds, h⟩ := run_bind_ok h
    obtain ⟨q, s3, hq, hd⟩ := run_bind_ok hd
    cases h
    cases hd
    obtain ⟨hkept, hall⟩ := ih hds
    refine ⟨(untouched_declare hq).trans hkept, List.forall_mem_cons.2 ⟨fun A => ?_, hall⟩⟩
    exact assignsIn_of_inner rfl (List.forall_mem_singleton.2 assignsIn_absent)

theorem run_scopeVars_quiet {root : Bool} {vars : List Piece}
    (h : run (scopeVars root) o s = (.ok vars, s')) :
    Untouched s s' ∧ ∀ q ∈ vars, ∀ A, AssignsIn A q := by
  obtain ⟨_, _, hget, h⟩ := run_bind_ok h
  cases hget
  obtain ⟨ps, s1, hps, hvars⟩ := run_bind_ok h
  obtain ⟨-, rfl⟩ := run_need hps
  split at hvars
  · cases hvars
    exact ⟨.refl _, by simp⟩
  · obtain ⟨ds, s2, hds, hvars⟩ := run_bind_ok hvars
    cases hvars
    obtain ⟨hkept, hall⟩ := run_declarations hds
    exact ⟨hkept, List.forall_mem_singleton.2 fun A =>
      assignsIn_of_inner rfl fun d hd => hall d hd A⟩

/-- The key of a special form is not visible. -/
theorem run_specialForm_start {name : Option String} {value : Piece} {body body' : List Piece}
    (h : run (specialForm name value body) o s = (.ok body', s')) :
    s'.globalName = s.globalName ∧ s'.newName = s.newName ∧ s'.scope.maps = s.scope.maps ∧
      (∀ e ∈ special name value, s.scope.hasKey (some e.1) = false) ∧
      ∃ starts, List.Forall₂ (Starts o) (special name value) starts ∧ body' = starts ++ body := by
  unfold specialForm at h
  split at h
  · cases h
    exact ⟨rfl, rfl, rfl, by simp [special], [], .nil, rfl⟩
  · next k =>
    split_ifs at h with hempty
    · cases h
      exact ⟨rfl, rfl, rfl, by simp [special, hempty], [], by simp [special, hempty], rfl⟩
    · obtain ⟨p, s1, hname, h⟩ := run_bind_ok h
      obtain ⟨id, s2, hsite, h⟩ := run_bind_ok h
      obtain ⟨_, s3, hset, h⟩ := run_bind_ok h
      cases h
      rw [Tracked.run_sourceName_text] at hname
      cases hname
      have hkept := untouched_atSite hsite
      obtain ⟨hok, rfl⟩ := run_changeScope hset
      have hspecial : special (some k) value = [(k, value)] := by simp [special, hempty]
      rw [hspecial]
      rw [hkept.scope] at hok ⊢
      exact ⟨hkept.globalName, hkept.newName, rfl,
        List.forall_mem_singleton.2 (hasKey_of_setSpecial hok),
        [_], .cons ⟨id, bare_atSite hsite, rfl⟩ .nil, rfl⟩

theorem Starts.assigns {e : String × Piece} {q : Piece} {n : String} (h : Starts o e q)
    (he : ∀ A, AssignsIn A e.2) (hn : Assigns n q) : n = nameIn o e.1 := by
  obtain ⟨id, hid, rfl⟩ := h
  refine assignsIn_statement (assignsIn_assignTo (A := (· = nameIn o e.1)) "=" ⟨?_, ?_⟩ (he _)) n hn
  · exact fun m hm => names_word (hm.congr hid)
  · exact (assignsIn_word _).congr hid

theorem assignsIn_specials {e : String × Piece} (he : e ∈ specials s) (A : String → Prop) :
    AssignsIn A e.2 := by
  rcases List.mem_append.1 he with he | he
  · obtain ⟨k, -, rfl⟩ := List.mem_map.1 he
    exact assignsIn_leaf _ _ _
  · obtain ⟨k, -, rfl⟩ := List.mem_map.1 he
    exact assignsIn_word _

/-- A program starts its special forms after what it declares. -/
theorem run_programRule_starts {cs : List Piece} {p : Piece}
    (h : run (programRule cs) o s = (.ok p, s')) :
    specials s' = specials s ∧ (∀ e ∈ specials s, s.scope.hasKey (some e.1) = false) ∧
      ∃ vars starts, (∀ q ∈ vars, ∀ A, AssignsIn A q) ∧ List.Forall₂ (Starts o) (specials s) starts ∧
        programBody o p = vars ++ (starts ++ cs) := by
  obtain ⟨body1, s1, body, vars, s2, s3, hglobal, hnew, hvars, hbody, hlast⟩ :=
    run_programRule_stages h
  obtain ⟨hg1, hn1, hmaps, hhidden1, starts1, hstarts1, rfl⟩ := run_specialForm_start hglobal
  obtain ⟨hg2, hn2, -, hhidden2, starts2, hstarts2, rfl⟩ := run_specialForm_start hnew
  obtain ⟨hkept, hquiet⟩ := run_scopeVars_quiet hvars
  rw [hn1] at hhidden2 hstarts2
  have hspecials : specials s' = specials s := by
    have hn : s'.newName = s.newName := by rw [hlast, ← hn1, ← hn2, ← hkept.newName]
    have hg : s'.globalName = s.globalName := by rw [hlast, ← hg1, ← hg2, ← hkept.globalName]
    rw [specials, specials, hn, hg]
  refine ⟨hspecials, fun e he => ?_, vars, starts2 ++ starts1, hquiet, ?_, ?_⟩
  · rcases List.mem_append.1 he with he | he
    · have hkey := hhidden2 e he
      rwa [Scope.hasKey, hmaps] at hkey
    · exact hhidden1 e he
  · exact List.rel_append hstarts2 hstarts1
  · rw [hbody, List.append_assoc]

/-- Of statements for forms with different identifiers, one writes to each. -/
theorem exists_start {es : List (String × Piece)} {starts : List Piece}
    (h : List.Forall₂ (Starts o) es starts) (hvalue : ∀ e ∈ es, ∀ A, AssignsIn A e.2)
    (hapart : (es.map fun e => nameIn o e.1).Nodup) {e : String × Piece} (he : e ∈ es) :
    ∃ before id after, starts = before ++ statement (assignTo "=" id e.2) :: after ∧
      id.bare = word (nameIn o e.1) ∧ ∀ q ∈ before ++ after, ¬ Assigns (nameIn o e.1) q := by
  induction h with
  | nil => cases he
  | @cons e' q es qs hq hqs ih =>
    rw [List.map_cons, List.nodup_cons] at hapart
    have hne {d : String × Piece} (hd : d ∈ es) : nameIn o d.1 ≠ nameIn o e'.1 := fun heq =>
      hapart.1 (heq ▸ List.mem_map_of_mem hd)
    rcases List.mem_cons.1 he with rfl | hmem
    · obtain ⟨id, hid, rfl⟩ := hq
      refine ⟨[], id, qs, rfl, hid, fun q hq hn => ?_⟩
      obtain ⟨d, hd, hstart⟩ := forall₂_right hqs hq
      exact hne hd (hstart.assigns (hvalue d (by simp [hd])) hn).symm
    · obtain ⟨before, id, after, rfl, hid, hrest⟩ :=
        ih (fun d hd => hvalue d (by simp [hd])) hapart.2 hmem
      refine ⟨q :: before, id, after, rfl, hid, ?_⟩
      rw [List.cons_append, List.forall_mem_cons]
      exact ⟨fun hn => hne hmem (hq.assigns (hvalue e' (by simp)) hn), hrest⟩

end

/-- A special form is protected: where each name that the program writes to outside of functions has
another identifier than the special form or is bound under its key, and the temporaries and the other
special form have other identifiers, only the statement at the start assigns to it. -/
theorem special_form_protected {fs : List Tree} {o : Options} {p : Piece} {s' : State}
    (h : run (visit (.node .module fs)) o {} = (.ok p, s')) {k : String} {value : Piece}
    (hform : (k, value) ∈ specials s') (hk : k ≠ "__init__")
    (hapart : ((specials s').map fun e => nameIn o e.1).Nodup)
    (htemp : ∀ t, IsTemporary t → nameIn o t = nameIn o k → t = k)
    (hguards : ∀ e ∈ surfaceAll fs, Guards o k e.1 e.2) :
    ∃ before id after, programBody o p = before ++ statement (assignTo "=" id value) :: after ∧
      id.bare = word (nameIn o k) ∧ ∀ q ∈ before ++ after, ¬ Assigns (nameIn o k) q := by
  obtain ⟨r, hr, rfl⟩ := exists_record h
  obtain ⟨s1, s2, s3, rss, -, hs1, hfields, -, hrule, -, hend⟩ := run_record_stages ready_start hr
  have hvisit : ∀ t ∈ fs, ∀ u ∈ nodesIn t, Assigning o (Allowed o k) (visit u) := by
    intro t ht u hu
    refine visit_assigning (enduring_allowed hk) (fun kind gs hkind (hfit : Guards o k kind gs) rss
      hrec s p s' hcs hrun => assigns_node hk htemp hkind hfit hrec hcs hrun) u fun e he => ?_
    exact hguards e (mem_surfaceAll ht (mem_surface_of_nodesIn hu he))
  have hcs : ∀ c ∈ nodesOf rss.flatten, AssignsIn (Allowed o k s2.scope) c :=
    assigns_recordFields (enduring_allowed hk) hvisit hs1 hfields
  obtain ⟨hspecials, hhidden, vars, starts, hquiet, hstarts, hbody⟩ := run_programRule_starts hrule
  have hsame : specials s' = specials (State.fieldsLeft {} s2).touched := by
    rw [← hspecials, hend]
    rfl
  rw [hsame] at hform hapart
  obtain ⟨before, id, after, rfl, hid, hrest⟩ :=
    exists_start hstarts (fun e he => assignsIn_specials he) hapart hform
  refine ⟨vars ++ before, id, after ++ nodesOf rss.flatten, ?_, hid, fun q hq hn => ?_⟩
  · rw [hbody]
    simp
  · simp only [List.mem_append] at hq
    rcases hq with (hq | hq) | (hq | hq)
    · exact hquiet q hq (fun _ => False) _ hn
    · exact hrest q (List.mem_append_left _ hq) hn
    · exact hrest q (List.mem_append_right _ hq) hn
    · -- a statement of the source that writes to the identifier has made the key visible
      have hvisible : s2.scope.hasKey (some k) = true := hcs q hq _ hn rfl
      have hnone : s2.scope.hasKey (some k) = false := hhidden _ hform
      rw [hnone] at hvisible
      cases hvisible

/-- The global object under a short name, and a statement after it. -/
def afterImport (t : Tree) : List Tree :=
  [.list [.node .importStmt [.list [.node .alias [.text "_global", .text "g"]]], t]]

/-- `g.size = g` -/
def sizeOfGlobal : Tree :=
  .node .assign [.list [.node .attr [nameNode "g", .text "size", .node (.use .store) []]], nameNode "g"]

/-- `g **= g` -/
def powerOfGlobal : Tree := .node .augAssign [nameNode "g", .node (.op .pow) [], nameNode "g"]

/-- The name to which a statement assigns. -/
def written? : Piece → Option String
  | .node (.exprStatement (.node (.assign (.text "=") (.node (.leaf .ident (.text n)) _) _) _)) _ => some n
  | _ => none

theorem assigns_of_written {q : Piece} {n : String} (h : written? q = some n) : Assigns n q := by
  unfold written? at h
  split at h
  · cases h
    exact .inside (List.mem_singleton_self _) (.here (List.mem_singleton_self _) .ident)
  · cases h

theorem powerOfGlobal_not_protected :
    (∃ p s', run (visit (.node .module (afterImport sizeOfGlobal))) {} {} = (.ok p, s') ∧
      ∃ before id after, programBody {} p = before ++ statement (assignTo "=" id (word "this")) :: after ∧
        id.bare = word "g" ∧ ∀ q ∈ before ++ after, ¬ Assigns "g" q) ∧
    ∃ p s', run (visit (.node .module (afterImport powerOfGlobal))) {} {} = (.ok p, s') ∧
      ∃ vars first second, programBody {} p = [vars, first, second] ∧
        Assigns "g" first ∧ Assigns "g" second := by
  constructor
  · have hok : (run (visit (.node .module (afterImport sizeOfGlobal))) {} {}).1.isOk = true := by
      decide +kernel
    have hnames : ((run (visit (.node .module (afterImport sizeOfGlobal))) {} {}).2.newName,
        (run (visit (.node .module (afterImport sizeOfGlobal))) {} {}).2.globalName) =
        (none, some "g") := by decide +kernel
    rcases h : run (visit (.node .module (afterImport sizeOfGlobal))) {} {} with ⟨_ | p, s'⟩
    · rw [h] at hok
      cases hok
    · rw [h] at hnames
      obtain ⟨hnew, hglobal⟩ := Prod.mk.inj hnames
      have hspecials : specials s' = [("g", word "this")] := by
        rw [specials, hnew, hglobal]
        rfl
      have hform : ("g", word "this") ∈ specials s' := hspecials ▸ List.mem_singleton_self _
      have hapart : ((specials s').map fun e => nameIn {} e.1).Nodup :=
        hspecials ▸ List.nodup_singleton _
      exact ⟨p, s', rfl, special_form_protected h hform (by decide) hapart (fun t _ ht => ht)
        (by decide +kernel)⟩
  · have hbody : (run (visit (.node .module (afterImport powerOfGlobal))) {} {}).1.toOption.map
        (fun p => (programBody {} p).map written?) = some [none, some "g", some "g"] := by decide +kernel
    rcases h : run (visit (.node .module (afterImport powerOfGlobal))) {} {} with ⟨_ | p, s'⟩
    · rw [h] at hbody
      cases hbody
    · rw [h] at hbody
      have hmap : (programBody {} p).map written? = [none, some "g", some "g"] := Option.some.inj hbody
      simp only [List.map_eq_cons_iff, List.map_eq_nil_iff] at hmap
      obtain ⟨vars, _, hp, -, first, _, rfl, hfirst, second, _, rfl, hsecond, rfl⟩ := hmap
      exact ⟨p, s', rfl, vars, first, second, hp, assigns_of_written hfirst,
        assigns_of_written hsecond⟩

end Transpile.Walk
