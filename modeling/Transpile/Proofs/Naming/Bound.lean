import Transpile.Proofs.Naming.Declared

/-! Bound names are declared. A name that a statement binds is visible from then on: it stays in one
of the maps until the function or the program to which the map belongs is left, and is declared
there. -/

namespace Transpile.Walk

open Script Source

/-- A node that was walked somewhere in the fields of another. -/
inductive Below : Record → Record → Prop where
  | field {b : Record} {t : Tree} {p : Piece} {rss : List (List Record)} (hb : b ∈ rss.flatten) :
      Below b (.mk t p rss)
  | deeper {b r : Record} {t : Tree} {p : Piece} {rss : List (List Record)} (h : Below b r)
      (hr : r ∈ rss.flatten) : Below b (.mk t p rss)

theorem below_iff {b : Record} {t : Tree} {p : Piece} {rss : List (List Record)} :
    Below b (.mk t p rss) ↔ ∃ r ∈ rss.flatten, b = r ∨ Below b r := by
  constructor
  · intro h
    cases h with
    | field hb => exact ⟨b, hb, .inl rfl⟩
    | deeper h hr => exact ⟨_, hr, .inr h⟩
  · rintro ⟨r, hr, rfl | h⟩
    · exact .field hr
    · exact .deeper h hr

/-- A name that can be assigned to. -/
def plainName? : Tree → Option String
  | .node .name [.text n, _] => if n ∈ ["None", "True", "False"] then none else some n
  | _ => none

namespace Record

/-- The names that the body of a function or of a program declares. -/
def declared (o : Options) (r : Record) : List String :=
  match r.tree with
  | .node .functionDef _ => leadingNames (definitionBody r.result)
  | .node .module _ => leadingNames (programBody o r.result)
  | _ => []

/-- The names that a node binds by itself. Of a chain of assignments these are the targets, as long
as the value gave something to assign. -/
def boundNames : Record → List String
  | .mk (.node .assign [.list ts, _]) _ [_, vs] =>
    if (nodesOf vs).isEmpty then [] else ts.filterMap plainName?
  | .mk (.node .augAssign [t, .node (.op op) _, _]) _ _ =>
    if op = .pow ∨ op = .floorDiv then [] else (plainName? t).toList
  | .mk (.node .forStmt (t :: _)) _ _ => (plainName? t).toList
  | .mk (.node .deleteStmt (.list ts :: _)) _ _ => ts.filterMap plainName?
  | .mk (.node .functionDef (.text n :: _)) _ _ => [n]
  | _ => []

end Record

section

variable {o : Options} {s s' : State} (ho : o.camelCase = false)

/-! What a rule has bound is visible -/

theorem hasKey_bind {n : String} {q : Piece} (h : run (Walk.bind (word n)) o s = (.ok q, s')) :
    s'.scope.hasKey (some n) = true := by
  obtain ⟨v, s1, hv, h⟩ := run_bind_ok h
  cases hv
  exact hasKey_bindAs h

include ho in
theorem hasKey_assignTargets {value chain : Piece} {ts extras : List Piece}
    {e : Piece × List Piece} {n : String} (hn : word n ∈ ts)
    (h : run (assignTargets value ts chain extras) o s = (.ok e, s')) :
    s'.scope.hasKey (some n) = true := by
  have hG := Steps.ofGrown ho
  induction ts generalizing s chain extras with
  | nil => cases hn
  | cons t ts ih =>
    rw [assignTargets_cons] at h
    generalize (if chain.isAbsent then value else chain) = source at h
    rcases List.mem_cons.1 hn with rfl | hn
    · obtain ⟨q, s1, h1, h⟩ := run_bind_ok (w := Walk.bind (word n)) h
      have hrest := keeps_bind hG (keeps_placeTarget hG value extras q)
        (fun e => keeps_assignTargets hG value ts (assignTo "=" e.1 source) e.2) s1 e s' h
      exact hrest.hasKey (hasKey_bind h1)
    · split_ifs at h
      all_goals
        obtain ⟨q, s1, -, h⟩ := run_bind_ok h
        obtain ⟨e', s2, -, h⟩ := run_bind_ok h
        exact ih hn h

include ho in
theorem hasKey_assignRule {cs vs : List Piece} {p : Piece} {n : String} (hn : word n ∈ cs)
    (hvs : vs ≠ []) (h : run (assignRule (cs ++ vs)) o s = (.ok p, s')) :
    s'.scope.hasKey (some n) = true := by
  have hlast : (cs ++ vs).getLast? = some (vs.getLast hvs) := by
    rw [List.getLast?_append, List.getLast?_eq_some_getLast hvs]
    rfl
  have hmem : word n ∈ (cs ++ vs).dropLast.reverse := by
    rw [List.mem_reverse, List.dropLast_append_of_ne_nil hvs]
    exact List.mem_append_left _ hn
  unfold assignRule at h
  rw [hlast] at h
  obtain ⟨⟨chain, extras⟩, s1, h1, h⟩ := run_bind_ok h
  have hseen := hasKey_assignTargets ho hmem h1
  dsimp only at h
  split_ifs at h
  · cases h
    exact hseen
  · cases h
    exact hseen

theorem hasKey_augmentRule {op : Op} {fs : List Tree} (hop : ¬(op = .pow ∨ op = .floorDiv))
    {cs : List Piece} {p : Piece} {n : String}
    (h : run (augmentRule (.node (.op op) fs) (word n :: cs)) o s = (.ok p, s')) :
    s'.scope.hasKey (some n) = true := by
  obtain ⟨_, _, h1, h⟩ := run_bind_ok h
  cases h1
  obtain ⟨_, _, h2, h⟩ := run_bind_ok h
  cases h2
  split at h
  · next heq => exact absurd (.inl (Option.some.inj heq)) hop
  · next heq => exact absurd (.inr (Option.some.inj heq)) hop
  · obtain ⟨sign, s1, -, h⟩ := run_bind_ok h
    obtain ⟨value, s2, -, h⟩ := run_bind_ok h
    obtain ⟨q, s3, hbind, h⟩ := run_bind_ok (w := Walk.bind (word n)) h
    have hseen := hasKey_bind hbind
    split at h
    · cases h
      exact hseen
    · cases h

theorem hasKey_forRule {cs : List Piece} {p : Piece} {n : String}
    (h : run (forRule (word n :: cs)) o s = (.ok p, s')) : s'.scope.hasKey (some n) = true := by
  obtain ⟨i, s1, -, h⟩ := run_bind_ok h
  obtain ⟨values, s2, -, h⟩ := run_bind_ok h
  obtain ⟨item, s3, hitem, h⟩ := run_bind_ok h
  cases hitem
  obtain ⟨source, s4, -, h⟩ := run_bind_ok h
  obtain ⟨body, s5, -, h⟩ := run_bind_ok h
  obtain ⟨_, s6, -, h⟩ := run_bind_ok h
  obtain ⟨q, s7, hbind, h⟩ := run_bind_ok h
  cases h
  exact hasKey_bind hbind

theorem hasKey_mapM {f : Piece → Walker Piece} (hG : Steps o (OnScope Grown))
    (hf : ∀ c, KeepsAt o (OnScope Grown) (f c)) {key : Option String} {c : Piece}
    (hc : KeepsAt o (fun _ s' => s'.scope.hasKey key = true) (f c)) {cs ds : List Piece}
    (hmem : c ∈ cs) (h : run (cs.mapM f) o s = (.ok ds, s')) : s'.scope.hasKey key = true := by
  induction cs generalizing s ds with
  | nil => cases hmem
  | cons b cs ih =>
    rw [List.mapM_cons] at h
    obtain ⟨d, s1, h1, h⟩ := run_bind_ok h
    obtain ⟨ds', s2, h2, h⟩ := run_bind_ok h
    cases h
    rcases List.mem_cons.1 hmem with rfl | hmem
    · have hrest : Grown s1.scope s'.scope := keeps_mapM hG hf cs s1 ds' s' h2
      exact hrest.hasKey (hc s d s1 h1)
    · exact ih hmem h2

include ho in
theorem hasKey_deleteRule {cs : List Piece} {p : Piece} {n : String} (hn : word n ∈ cs)
    (h : run (deleteRule cs) o s = (.ok p, s')) : s'.scope.hasKey (some n) = true := by
  have hG := Steps.ofGrown ho
  obtain ⟨ds, s1, hds, h⟩ := run_bind_ok h
  cases h
  refine hasKey_mapM hG (fun c => ?_) (fun s2 d s3 hd => ?_) hn hds
  · exact keeps_bind hG (keeps_bindByValue hG c) fun _ => keeps_pure hG _
  · obtain ⟨q, s4, hbind, hd⟩ := run_bind_ok hd
    cases hd
    exact hasKey_bind hbind

/-! Names in records -/

include ho in
theorem results_nameRule {n : String} (hn : n ∉ ["None", "True", "False"]) :
    Results o (· = word n) (nameRule (.text n)) := by
  refine results_bind_of (P := (· = .text n)) (results_pure rfl) fun v hv => ?_
  subst hv
  simp only [List.mem_cons, List.not_mem_nil, or_false, not_or] at hn
  split
  · next h => exact absurd (by simpa using h) hn.1
  · next h => exact absurd (by simpa using h) hn.2.1
  · next h => exact absurd (by simpa using h) hn.2.2
  · intro s p s' h
    rw [run_sourceName ho] at h
    cases h
    rfl

include ho in
theorem nodesOf_plainName {t : Tree} {n : String} {rs : List Record} (hn : plainName? t = some n)
    (h : Recorded o t rs) : nodesOf rs = [word n] := by
  unfold plainName? at hn
  split at hn
  · split_ifs at hn with hmem
    cases hn
    obtain ⟨p, rss, rfl, -, s, s', hrule⟩ := recorded_node h
    rw [rule_walkAll rfl] at hrule
    obtain rfl := results_nameRule ho hmem s p s' hrule
    rfl
  · cases hn

include ho in
theorem mem_nodesOf_targets {ts : List Tree} {n : String} {rs : List Record}
    (hn : n ∈ ts.filterMap plainName?) (h : Recorded o (.list ts) rs) : word n ∈ nodesOf rs := by
  obtain ⟨t, ht, hname⟩ := List.mem_filterMap.1 hn
  have hnode : t.isNode = true := by
    unfold plainName? at hname
    split at hname
    · rfl
    · cases hname
  obtain ⟨r, hr, hrec⟩ := forall₂_right (recorded_list h).flip (List.mem_filter.2 ⟨ht, hnode⟩)
  have hword := nodesOf_plainName ho hname hrec
  rw [nodesOf_cons, nodesOf_nil, List.append_nil] at hword
  exact List.mem_flatMap.2 ⟨r, hr, by simp [hword]⟩

include ho in
/-- What a node binds by itself is visible when its rule has made its result. -/
theorem hasKey_of_boundNames {k : Kind} {fs : List Tree} {p q : Piece} {rss : List (List Record)}
    (hfields : List.Forall₂ (Recorded o) fs rss) {n : String}
    (hn : n ∈ (Record.mk (.node k fs) q rss).boundNames)
    (h : run (rule k (walkAll fs) (nodesOf rss.flatten)) o s = (.ok p, s')) :
    s'.scope.hasKey (some n) = true := by
  unfold Record.boundNames at hn
  split at hn
  · next ts v _ us vs heq =>
    cases heq
    split_ifs at hn with hvs
    · cases hn
    obtain ⟨ht, -⟩ := List.forall₂_cons.1 hfields
    rw [rule_walkAll rfl] at h
    simp only [List.flatten_cons, List.flatten_nil, List.append_nil, nodesOf_append] at h
    exact hasKey_assignRule ho (mem_nodesOf_targets ho hn ht) (by simpa using hvs) h
  · next t op _ _ _ _ heq =>
    cases heq
    split_ifs at hn with hop
    · cases hn
    obtain ⟨us, rest, ht, -, rfl⟩ := List.forall₂_cons_left_iff.1 hfields
    rw [rule_walkAll rfl, List.flatten_cons, nodesOf_append,
      nodesOf_plainName ho (Option.mem_toList.1 hn) ht] at h
    exact hasKey_augmentRule hop h
  · next t _ _ _ heq =>
    cases heq
    obtain ⟨us, rest, ht, -, rfl⟩ := List.forall₂_cons_left_iff.1 hfields
    rw [rule_walkAll rfl, List.flatten_cons, nodesOf_append,
      nodesOf_plainName ho (Option.mem_toList.1 hn) ht] at h
    exact hasKey_forRule h
  · next ts _ _ _ heq =>
    cases heq
    obtain ⟨us, rest, ht, -, rfl⟩ := List.forall₂_cons_left_iff.1 hfields
    rw [rule_walkAll rfl, List.flatten_cons, nodesOf_append] at h
    exact hasKey_deleteRule ho (List.mem_append_left _ (mem_nodesOf_targets ho hn ht)) h
  · next m _ _ _ heq =>
    cases heq
    obtain rfl := List.mem_singleton.1 hn
    rw [rule_walkAll rfl] at h
    obtain ⟨name, decorators, hname, h⟩ := run_functionDef h
    exact (run_functionRule ho h).2.2 n (Option.some.inj hname).symm
  · cases hn

/-! Whole runs -/

/-- What a record shows when the names of `sc` are visible: declared names are in increasing order,
and a bound name is visible or is declared around the node that binds it. -/
structure Sound (o : Options) (sc : Scope) (r : Record) : Prop where
  sorted : ∀ d, d = r ∨ Below d r → (d.declared o).Pairwise (· < ·)
  bound : ∀ b, b = r ∨ Below b r → ∀ n ∈ b.boundNames, sc.hasKey (some n) = true ∨
    ∃ d, (d = r ∨ Below d r) ∧ Below b d ∧ n ∈ d.declared o

theorem Sound.mono {a b : Scope} {r : Record} (h : Sound o a r) (hg : Grown a b) : Sound o b r where
  sorted := h.sorted
  bound c hc n hn := by
    rcases h.bound c hc n hn with hseen | hd
    · exact .inl (hg.hasKey hseen)
    · exact .inr hd

include ho in
theorem grown_recordsOf {t : Tree} (hm : contains .module t = false)
    (hc : contains .classDef t = false) : KeepsAt o (OnScope Grown) (recordsOf t) := by
  intro s rs s' h
  have hvisit : run (visitField (walk t)) o s = (.ok (), s') := by
    rw [visitField_walk, discard_eq, run_bind_of_ok h]
    rfl
  exact keeps_visitField (Steps.ofGrown ho) (walk_grown ho hm hc) s () s' hvisit

include ho in
theorem sound_fields {fs : List Tree} (hm : ∀ t ∈ fs, contains .module t = false)
    (hc : ∀ t ∈ fs, contains .classDef t = false)
    (ih : ∀ t ∈ fs, ∀ s rs s', Ready s → run (recordsOf t) o s = (.ok rs, s') →
      ∀ r ∈ rs, Sound o s'.scope r)
    {rss : List (List Record)} (hs : Ready s) (h : run (recordFields fs) o s = (.ok rss, s')) :
    Grown s.scope s'.scope ∧ ∀ r ∈ rss.flatten, Sound o s'.scope r :=
  forall_recordFields Grown.refl Grown.trans (fun hg hr => hr.mono hg)
    (fun t ht s rs s' hs h => ⟨grown_recordsOf ho (hm t ht) (hc t ht) s rs s' h, ih t ht s rs s' hs h⟩)
    hs h

theorem isVars_of_isPlain {q : Piece} (h : isPlain q = true) : isVars q = false := by
  unfold isVars
  split
  · cases h
  · rfl

theorem isVars_nodesOf {fs : List Tree} {rss : List (List Record)}
    (hfields : List.Forall₂ (Recorded o) fs rss) : ∀ q ∈ nodesOf rss.flatten, isVars q = false := by
  intro q hq
  obtain ⟨r, hr, hq⟩ := List.mem_flatMap.1 hq
  obtain ⟨rs, hrs, hr⟩ := List.mem_flatten.1 hr
  obtain ⟨t, -, h⟩ := forall₂_right hfields hrs
  rcases recorded_lined h r hr with hl | hc
  · exact isVars_of_isPlain (hl.plain hq)
  · rw [spliced_of_isCatch hc] at hq
    obtain rfl := List.mem_singleton.1 hq
    unfold isCatch at hc
    split at hc
    · next heq =>
      rw [heq]
      rfl
    · cases hc

include ho in
/-- A function declares what its scope has bound. -/
theorem declared_functionDef {fs : List Tree} {rss : List (List Record)} {p : Piece}
    (hfields : List.Forall₂ (Recorded o) fs rss) (ht : Tidy s.scope.inner)
    (h : run (rule .functionDef (walkAll fs) (nodesOf rss.flatten)) o s = (.ok p, s')) :
    ((Record.mk (.node .functionDef fs) p rss).declared o).Pairwise (· < ·) ∧
      ∀ n, s.scope.inner.hasKey (some n) = true →
        n ∈ (Record.mk (.node .functionDef fs) p rss).declared o := by
  rw [rule_walkAll rfl] at h
  obtain ⟨name, decorators, -, h⟩ := run_functionDef h
  obtain ⟨⟨vars, s1, body, hvars, hp, hbody⟩, -, -⟩ := run_functionRule ho h
  obtain ⟨hlead, hsorted, hkeys⟩ := run_scopeVars hvars ht
  have hdeclared : (Record.mk (.node .functionDef fs) p rss).declared o = leadingNames vars := by
    change leadingNames (definitionBody p) = _
    rw [hp, leadingNames_append hlead fun q hq => isVars_nodesOf hfields q (hbody q hq)]
  rw [hdeclared]
  exact ⟨hsorted, fun n hn => hkeys n (hasKey_declarable.2 (.inr hn))⟩

include ho in
/-- A program declares what its scope has bound and the special forms. -/
theorem declared_module {fs : List Tree} {rss : List (List Record)} {p : Piece}
    (hfields : List.Forall₂ (Recorded o) fs rss) (hsp : s.scope.special = [])
    (ht : Tidy s.scope.inner)
    (h : run (rule .module (walkAll fs) (nodesOf rss.flatten)) o s = (.ok p, s')) :
    ((Record.mk (.node .module fs) p rss).declared o).Pairwise (· < ·) ∧
      (∀ n, s.scope.inner.hasKey (some n) = true →
        n ∈ (Record.mk (.node .module fs) p rss).declared o) ∧
      ∀ n, s'.scope.special.hasKey (some n) = true →
        n ∈ (Record.mk (.node .module fs) p rss).declared o := by
  rw [rule_walkAll rfl] at h
  have htidy : Tidy (s.scope.declarable true) := by
    simpa [Scope.declarable, hsp] using ht
  obtain ⟨vars, s1, s2, body, hvars, ht1, hinner, hspecial, hp, hbody⟩ := run_programRule ho h htidy
  obtain ⟨hlead, hsorted, hkeys⟩ := run_scopeVars hvars ht1
  have hplain : ∀ q ∈ body, isVars q = false := by
    intro q hq
    rcases hbody q hq with hq | hq
    · exact isVars_nodesOf hfields q hq
    · exact isVars_of_isPlain (isPlain_of_isStatement hq)
  have hdeclared : (Record.mk (.node .module fs) p rss).declared o = leadingNames vars := by
    change leadingNames (programBody o p) = _
    rw [hp, leadingNames_append hlead hplain]
  rw [hdeclared]
  refine ⟨hsorted, fun n hn => hkeys n (hasKey_declarable.2 (.inr ?_)), fun n hn =>
    hkeys n (hasKey_declarable.2 (.inl ⟨rfl, ?_⟩))⟩
  · rwa [hinner]
  · rwa [← hspecial]

/-- The parts of a record are sound if the records in its fields are, and what it declares and binds
itself fits. -/
theorem sound_mk {sc sc' : Scope} {t : Tree} {p : Piece} {rss : List (List Record)}
    (hfields : ∀ r ∈ rss.flatten, Sound o sc r)
    (hsorted : ((Record.mk t p rss).declared o).Pairwise (· < ·))
    (hown : ∀ n ∈ (Record.mk t p rss).boundNames, sc'.hasKey (some n) = true)
    (hseen : ∀ n, sc.hasKey (some n) = true →
      sc'.hasKey (some n) = true ∨ n ∈ (Record.mk t p rss).declared o) :
    Sound o sc' (.mk t p rss) where
  sorted := by
    rintro d (rfl | hd)
    · exact hsorted
    · obtain ⟨r, hr, hd⟩ := below_iff.1 hd
      exact (hfields r hr).sorted d hd
  bound := by
    rintro b (rfl | hb) n hn
    · exact .inl (hown n hn)
    · obtain ⟨r, hr, hbr⟩ := below_iff.1 hb
      rcases (hfields r hr).bound b hbr n hn with hkey | ⟨d, hd, hbd, hmem⟩
      · rcases hseen n hkey with hkey | hmem
        · exact .inl hkey
        · exact .inr ⟨_, .inl rfl, hb, hmem⟩
      · exact .inr ⟨d, .inr (below_iff.2 ⟨r, hr, hd⟩), hbd, hmem⟩

include ho in
theorem sound_record {k : Kind} {fs : List Tree} (hm : contains .module (.node k fs) = false)
    (hc : contains .classDef (.node k fs) = false)
    (ih : ∀ t ∈ fs, ∀ s rs s', Ready s → run (recordsOf t) o s = (.ok rs, s') →
      ∀ r ∈ rs, Sound o s'.scope r)
    {r : Record} (hs : Ready s) (h : run (record k fs) o s = (.ok r, s')) : Sound o s'.scope r := by
  obtain ⟨hk, hmfs⟩ := Bool.or_eq_false_iff.1 hm
  obtain ⟨hkc, hcfs⟩ := Bool.or_eq_false_iff.1 hc
  have hgrown : Grown s.scope s'.scope :=
    grown_recordsOf ho hm hc s [r] s' ((run_bind_of_ok h _).trans rfl)
  obtain ⟨s1, s2, s3, rss, henter, hs1, hfields, hrule, hr, hscope⟩ := run_record hs h
  obtain ⟨hinner, hsound⟩ := sound_fields ho (fun t ht => contains_of_mem hmfs ht)
    (fun t ht => contains_of_mem hcfs ht) ih hs1 hfields
  have hrecorded := recorded_fields hs1 hfields
  have hown (n : String) (hn : n ∈ r.boundNames) : s'.scope.hasKey (some n) = true := by
    rw [hscope]
    rw [hr] at hn
    exact hasKey_of_boundNames ho hrecorded hn hrule
  rw [henter.scope] at hinner
  rw [hr] at hown ⊢
  by_cases hfun : k = .functionDef
  · subst hfun
    -- the fields were walked in a scope of their own, around which nothing has changed
    have htidy : Tidy (s.fieldsLeft s2).touched.scope.inner := hinner.tidy tidy_nil
    obtain ⟨hsorted, hkeys⟩ := declared_functionDef ho hrecorded htidy hrule
    refine sound_mk hsound hsorted hown fun n hn => ?_
    rcases hasKey_maps.1 hn with hn | ⟨m, hmem, hn⟩
    · exact .inr (hkeys n hn)
    · rw [hinner.outer] at hmem
      refine .inl (hgrown.hasKey (hasKey_maps.2 ?_))
      rcases List.mem_cons.1 hmem with rfl | hmem
      · exact .inl hn
      · exact .inr ⟨m, hmem, hn⟩
  · have hopens : opensScope k = false := by
      cases k <;> first | rfl | exact absurd rfl hfun | cases hk
    have hw := forall_walkAll fun t ht =>
      walk_grown ho (contains_of_mem hmfs ht) (contains_of_mem hcfs ht)
    have hstep : Grown (s.fieldsLeft s2).touched.scope s3.scope := steps_rule (Steps.ofGrown ho) hopens
      (of_decide_eq_false hkc) hw _ _ _ _ hrule
    have hnone : (Record.mk (.node k fs) r.result rss).declared o = [] := by
      unfold Record.declared
      split
      · next heq =>
        cases heq
        exact absurd rfl hfun
      · next heq =>
        cases heq
        cases hk
      · rfl
    refine sound_mk hsound (by simp [hnone]) hown fun n hn => .inl ?_
    rw [hscope]
    exact hstep.hasKey hn

include ho in
theorem sound_recordsOf {t : Tree} (hm : contains .module t = false)
    (hc : contains .classDef t = false) (s : State) (rs : List Record) (s' : State) (hs : Ready s)
    (h : run (recordsOf t) o s = (.ok rs, s')) : ∀ r ∈ rs, Sound o s'.scope r := by
  induction t using tree_induction generalizing s rs s' with
  | missing =>
    cases h
    simp
  | atom a =>
    cases h
    simp
  | list ts ih =>
    obtain ⟨rss, hfields, rfl⟩ := run_recordsOf_list h
    have hsub {u : Tree} (hu : u ∈ ts.filter Tree.isNode) : u ∈ ts := (List.mem_filter.1 hu).1
    exact (sound_fields ho (fun u hu => contains_of_mem hm (hsub hu))
      (fun u hu => contains_of_mem hc (hsub hu)) (fun u hu => ih u (hsub hu)
        (contains_of_mem hm (hsub hu)) (contains_of_mem hc (hsub hu))) hs hfields).2
  | node k fs ih =>
    obtain ⟨r, s1, hr, h⟩ := run_bind_ok h
    cases h
    intro r' hr'
    obtain rfl := List.mem_singleton.1 hr'
    refine sound_record ho hm hc (fun u hu => ih u hu ?_ ?_) hs hr
    · exact contains_of_mem (Bool.or_eq_false_iff.1 hm).2 hu
    · exact contains_of_mem (Bool.or_eq_false_iff.1 hc).2 hu

/-- In a program without classes, what a function or the program declares is in strictly increasing
order, the special forms included, and every name that is bound anywhere is declared by the function
that binds it or around it. -/
theorem bound_names_declared {fs : List Tree} {p : Piece} {s' : State} (ho : o.camelCase = false)
    (hm : anyContains .module fs = false) (hc : anyContains .classDef fs = false)
    (h : run (visit (.node .module fs)) o {} = (.ok p, s')) :
    ∃ r, run (record .module fs) o {} = (.ok r, s') ∧ r.result = p ∧
      (∀ d, d = r ∨ Below d r → (d.declared o).Pairwise (· < ·)) ∧
      (∀ n, s'.scope.special.has n = true → n ∈ r.declared o) ∧
      ∀ b, Below b r → ∀ n ∈ b.boundNames,
        ∃ d, (d = r ∨ Below d r) ∧ Below b d ∧ n ∈ d.declared o := by
  obtain ⟨r, hrun, hresult⟩ := exists_record h
  obtain ⟨s1, s2, s3, rss, henter, hs1, hfields, hrule, hr, hscope⟩ := run_record ready_start hrun
  obtain ⟨hgrown, hsound⟩ := sound_fields ho (fun t ht => contains_of_mem hm ht)
    (fun t ht => contains_of_mem hc ht) (fun t ht => sound_recordsOf ho (contains_of_mem hm ht)
      (contains_of_mem hc ht)) hs1 hfields
  rw [henter.scope] at hgrown
  have hspecial : (State.fieldsLeft {} s2).touched.scope.special = [] := hgrown.special
  have htidy : Tidy (State.fieldsLeft {} s2).touched.scope.inner := hgrown.tidy tidy_nil
  obtain ⟨hsorted, hkeys, hforms⟩ :=
    declared_module ho (recorded_fields hs1 hfields) hspecial htidy hrule
  have hroot : Sound o {} (.mk (.node .module fs) r.result rss) := by
    refine sound_mk hsound hsorted (fun n hn => by cases hn) fun n hn => ?_
    rcases hasKey_maps.1 hn with hn | ⟨m, hmem, hn⟩
    · exact .inr (hkeys n hn)
    · -- around the program there is one map, and it is empty
      rw [hgrown.outer] at hmem
      obtain rfl := List.mem_singleton.1 hmem
      cases hn
  refine ⟨r, hrun, hresult, ?_⟩
  rw [hr, hscope]
  refine ⟨hroot.sorted, hforms, fun b hb n hn => ?_⟩
  rcases hroot.bound b (.inr hb) n hn with hseen | hd
  · cases hseen
  · exact hd

/-- A function in a function, with the name of a variable around it to which both assign. -/
def sharedName : List Tree :=
  let assign : Tree := .node .assign [.list [nameNode "b"], nameNode "x"]
  let inner : Tree := .node .functionDef
    [.text "b", .node .arguments [], .list [assign], .list [], .none]
  let outer : Tree := .node .functionDef
    [.text "f", .node .arguments [], .list [assign, inner], .list [], .none]
  [.list [outer]]

theorem sharedName_declared : ({} : Options).camelCase = false ∧
    anyContains .module sharedName = false ∧ anyContains .classDef sharedName = false ∧
    ∃ r s', run (record .module sharedName) {} {} = (.ok r, s') ∧ r.declared {} = ["f"] ∧
      ∃ b, Below b r ∧ b.boundNames = ["b"] ∧ b.declared {} = [] ∧
        ∃ d, (d = r ∨ Below d r) ∧ Below b d ∧ "b" ∈ d.declared {} := by
  have hm : anyContains .module sharedName = false := by decide
  have hc : anyContains .classDef sharedName = false := by decide
  obtain ⟨p, s', hrun, hseen⟩ := exists_observed .module sharedName
    (fun r => (r.declared {}, r.fields.flatten.map fun f =>
      f.fields.flatten.map fun c => (c.boundNames, c.declared {})))
    (b := (["f"], [[([], []), (["b"], []), (["b"], [])]])) (by decide +kernel)
  obtain ⟨r, hrec, -, -, -, hbound⟩ := bound_names_declared rfl hm hc hrun
  have hall := hseen r hrec
  simp only [Prod.mk.injEq, List.map_eq_cons_iff, List.map_eq_nil_iff] at hall
  obtain ⟨hroot, f, _, hf, ⟨_, _, hbody, -, _, _, rfl, -, b, _, rfl, ⟨hb, hnone⟩, rfl⟩, rfl⟩ := hall
  obtain ⟨t, q, rss⟩ := r
  obtain ⟨u, v, uss⟩ := f
  have hbf : Below b (.mk u v uss) := .field (by rw [Record.fields_mk] at hbody; simp [hbody])
  have hbr : Below b (.mk t q rss) := .deeper hbf (by rw [Record.fields_mk] at hf; simp [hf])
  exact ⟨rfl, hm, hc, _, s', hrec, hroot, b, hbr, hb, hnone, hbound b hbr "b" (by simp [hb])⟩

end

end Transpile.Walk
