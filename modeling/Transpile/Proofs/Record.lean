import Transpile.Proofs.Success

/-! A walk that keeps the result of every node. The record of a node has the records of the nodes in
each of its fields, so it shows what every part of a tree gave in one run. Keeping records changes
nothing: the walk over a node is the recording walk with the rest of the record forgotten. -/

namespace Transpile.Walk

open Script Source

/-- A node that was walked, its result, and the nodes that were walked in each field. -/
inductive Record where
  | mk (tree : Tree) (result : Piece) (fields : List (List Record))

namespace Record

def tree : Record → Tree
  | mk t _ _ => t

def result : Record → Piece
  | mk _ p _ => p

def fields : Record → List (List Record)
  | mk _ _ rss => rss

variable (t : Tree) (p : Piece) (rss : List (List Record))

@[simp] theorem result_mk : (mk t p rss).result = p := rfl

@[simp] theorem fields_mk : (mk t p rss).fields = rss := rfl

end Record

/-- What the nodes added to the list of results. -/
def nodesOf (rs : List Record) : List Piece := rs.flatMap fun r => spliced r.result

@[simp] theorem nodesOf_nil : nodesOf [] = [] := rfl

@[simp] theorem nodesOf_cons (r : Record) (rs : List Record) :
    nodesOf (r :: rs) = spliced r.result ++ nodesOf rs := rfl

@[simp] theorem nodesOf_append (rs rs' : List Record) :
    nodesOf (rs ++ rs') = nodesOf rs ++ nodesOf rs' := List.flatMap_append

/-- The walk over a node, given the walk over its fields. -/
def recordNode (k : Kind) (fs : List Tree) (fields : Walker (List (List Record))) :
    Walker Record := do
  enterNode k (walkAll fs)
  let rss ← fields
  leaveFields popOperator k
  let p ← rule k (walkAll fs) (← children)
  let p ← closeNode closeLevel k p
  return .mk (.node k fs) p rss

mutual

/-- Walks what a field holds: a node, or the nodes of a list. -/
def recordsOf : Tree → Walker (List Record)
  | .node k fs => do return [← recordNode k fs (recordFields fs)]
  | .list ts => recordMembers ts
  | _ => pure []

def recordFields : List Tree → Walker (List (List Record))
  | [] => pure []
  | t :: ts => do return (← recordsOf t) :: (← recordFields ts)

def recordMembers : List Tree → Walker (List Record)
  | [] => pure []
  | t :: ts => do
    return (← (if t.isNode then recordsOf t else pure [])) ++ (← recordMembers ts)

end

theorem recordMembers_eq (ts : List Tree) :
    recordMembers ts = (do return (← recordFields (ts.filter Tree.isNode)).flatten) := by
  induction ts with
  | nil => rfl
  | cons t ts ih =>
    rw [recordMembers, ih]
    cases hnode : t.isNode with
    | true => simp [recordFields, hnode]
    | false => simp [hnode]

/-- The walk over a node, with its record. -/
def record (k : Kind) (fs : List Tree) : Walker Record := recordNode k fs (recordFields fs)

/-! Records change nothing -/

theorem discard_bind {α β γ : Type} (w : Walker α) (v : Walker β) (f : α → β → γ) :
    discard (do return f (← w) (← v)) = (do discard w; discard v) := by
  simp only [discard_eq, bind_assoc, pure_bind]

theorem visit_of_fields {k : Kind} {fs : List Tree}
    (h : (walkAll fs).forM visitField = discard (recordFields fs)) :
    visit (.node k fs) = (do return (← record k fs).result) := by
  change visitNode k (walkAll fs) = _
  rw [visitNode_eq, h]
  simp only [record, recordNode, closeNode, discard_eq, bind_assoc, pure_bind, Record.result]

theorem forM_recordFields {ts : List Tree}
    (h : ∀ t ∈ ts, visitField (walk t) = discard (recordsOf t)) :
    (walkAll ts).forM visitField = discard (recordFields ts) := by
  induction ts with
  | nil => rfl
  | cons t ts ih =>
    rw [recordFields, discard_bind, ← h t (by simp), ← ih fun u hu => h u (by simp [hu])]
    rfl

theorem forM_recordMembers {ts : List Tree}
    (h : ∀ t ∈ ts, visitField (walk t) = discard (recordsOf t)) :
    (walkAll ts).forM (fun p => if p.tree.isNode then discard p.again else pure ()) =
      discard (recordMembers ts) := by
  induction ts with
  | nil => rfl
  | cons t ts ih =>
    rw [recordMembers, discard_bind, ← ih fun u hu => h u (by simp [hu])]
    have hfirst : (if (walk t).tree.isNode then discard (walk t).again else pure ()) =
        discard (if t.isNode then recordsOf t else pure []) := by
      cases t with
      | node k fs => exact h (.node k fs) (by simp)
      | _ => rfl
    rw [← hfirst]
    rfl

theorem visitField_walk (t : Tree) : visitField (walk t) = discard (recordsOf t) := by
  induction t using tree_induction with
  | missing => rfl
  | atom a => rfl
  | list ts ih => exact forM_recordMembers ih
  | node k fs ih =>
    change discard (visit (.node k fs)) = discard (do return [← record k fs])
    rw [visit_of_fields (forM_recordFields ih)]
    simp only [discard_eq, bind_assoc, pure_bind]

/-- The walk over a node is the recording walk without the record. -/
theorem visit_eq_record (k : Kind) (fs : List Tree) :
    visit (.node k fs) = (do return (← record k fs).result) :=
  visit_of_fields (forM_recordFields fun t _ => visitField_walk t)

/-- A field adds the results of its records. -/
theorem resultsOf_walk (t : Tree) : resultsOf (walk t) = (do return nodesOf (← recordsOf t)) := by
  have hnode (k : Kind) (fs : List Tree) : resultOf (walk (.node k fs)) =
      (do return nodesOf (← recordsOf (.node k fs))) := by
    change (visit (.node k fs) >>= fun p => pure (spliced p)) =
      (record k fs >>= fun r => pure [r]) >>= fun rs => pure (nodesOf rs)
    rw [visit_eq_record]
    simp only [bind_assoc, pure_bind, nodesOf_cons, nodesOf_nil, List.append_nil]
  cases t with
  | node k fs => exact hnode k fs
  | missing => rfl
  | atom a => rfl
  | list ts =>
    change gather _ (walkAll ts) = (do return nodesOf (← recordMembers ts))
    induction ts with
    | nil => rfl
    | cons t ts ih =>
      have hfirst : (if (walk t).tree.isNode then resultOf (walk t) else pure []) =
          (if t.isNode then recordsOf t else pure []) >>= fun rs => pure (nodesOf rs) := by
        cases t with
        | node k fs => exact hnode k fs
        | _ => rfl
      rw [walkAll, gather, hfirst, ih, recordMembers]
      simp only [bind_assoc, pure_bind, nodesOf_append]

section

variable {k : Kind} {fs : List Tree} {o : Options} {s s' : State}

theorem run_visit_of_record {r : Record} (h : run (record k fs) o s = (.ok r, s')) :
    run (visit (.node k fs)) o s = (.ok r.result, s') := by
  rw [visit_eq_record, run_bind_of_ok h]
  rfl

theorem exists_record {p : Piece} (h : run (visit (.node k fs)) o s = (.ok p, s')) :
    ∃ r, run (record k fs) o s = (.ok r, s') ∧ r.result = p := by
  rw [visit_eq_record] at h
  obtain ⟨r, s1, hr, h1⟩ := run_bind_ok h
  cases h1
  exact ⟨r, hr, rfl⟩

/-- What can be seen in the record of a walk that is run. -/
theorem exists_observed {β : Type} (k : Kind) (fs : List Tree) (f : Record → β) {b : β}
    (h : (run (record k fs) {} {}).1.toOption.map f = some b) :
    ∃ p s', run (visit (.node k fs)) {} {} = (.ok p, s') ∧
      ∀ r, run (record k fs) {} {} = (.ok r, s') → f r = b := by
  rcases hr : run (record k fs) {} {} with ⟨_ | r, s'⟩
  · rw [hr] at h
    cases h
  · refine ⟨r.result, s', run_visit_of_record hr, ?_⟩
    rintro r' hr'
    cases hr'
    rw [hr] at h
    exact Option.some.inj h

/-! What records add to the results -/

theorem Kept.refl (hs : Ready s) : Kept s s [] := Kept.of_edit hs (Edit.refl _ _)

/-- The members of a list are walked like fields, those that are nodes. -/
theorem run_recordsOf_list {ts : List Tree} {rs : List Record}
    (h : run (recordsOf (.list ts)) o s = (.ok rs, s')) :
    ∃ rss, run (recordFields (ts.filter Tree.isNode)) o s = (.ok rss, s') ∧ rs = rss.flatten := by
  change run (recordMembers ts) o s = _ at h
  rw [recordMembers_eq] at h
  obtain ⟨rss, s1, hrss, h⟩ := run_bind_ok h
  cases h
  exact ⟨rss, hrss, rfl⟩

theorem adds_recordFields {ts : List Tree} (h : ∀ t ∈ ts, Adds nodesOf (recordsOf t)) :
    Adds (fun rss => nodesOf rss.flatten) (recordFields ts) := by
  induction ts with
  | nil =>
    intro o s rss s' hs hr
    cases hr
    exact Kept.refl hs
  | cons t ts ih =>
    intro o s rss s' hs hr
    obtain ⟨rs, s1, h1, hr⟩ := run_bind_ok hr
    obtain ⟨rss', s2, h2, hr⟩ := run_bind_ok hr
    cases hr
    have hk := h t (by simp) o s rs s1 hs h1
    change Kept s s' (nodesOf (rs :: rss').flatten)
    rw [List.flatten_cons, nodesOf_append]
    exact hk.trans (ih (fun u hu => h u (by simp [hu])) o s1 rss' s' (hk.ready hs) h2)

theorem adds_recordsOf (t : Tree) : Adds nodesOf (recordsOf t) := by
  induction t using tree_induction with
  | missing =>
    intro o s rs s' hs h
    cases h
    exact Kept.refl hs
  | atom a =>
    intro o s rs s' hs h
    cases h
    exact Kept.refl hs
  | list ts ih =>
    intro o s rs s' hs h
    obtain ⟨rss, hr, rfl⟩ := run_recordsOf_list h
    exact adds_recordFields (fun t ht => ih t (List.mem_filter.1 ht).1) o s rss s' hs hr
  | node k fs ih =>
    intro o s rs s' hs h
    obtain ⟨r, s1, hr, h1⟩ := run_bind_ok h
    cases h1
    have hk := (walk_adds (.node k fs)).again o s r.result s' hs (run_visit_of_record hr)
    simpa using hk

/-! The stages of a node -/

/-- The fields are walked from `s1` to `s2`, and the rule is given what their nodes added. It ends in
`s3`, of which the node changes only the results and the trace. -/
theorem run_record_stages {r : Record} (hs : Ready s) (h : run (record k fs) o s = (.ok r, s')) :
    ∃ s1 s2 s3 rss, Entered k s s1 ∧ Ready s1 ∧ run (recordFields fs) o s1 = (.ok rss, s2) ∧
      Ready (s.fieldsLeft s2).touched ∧
      run (rule k (walkAll fs) (nodesOf rss.flatten)) o (s.fieldsLeft s2).touched =
        (.ok r.result, s3) ∧
      r = .mk (.node k fs) r.result rss ∧
      s' = { s3 with levels := s'.levels, trace := s'.trace } := by
  have hw : ∀ w ∈ walkAll fs, w.All (Adds spliced) := forall_walkAll fun t _ => walk_adds t
  obtain ⟨_, s1, h1, h⟩ := run_bind_ok h
  obtain ⟨rss, s2, h2, h⟩ := run_bind_ok h
  have he : Entered k s s1 := entered_of_run h1
  have hs1 := he.ready hs
  have hk2 : Kept s1 s2 (nodesOf rss.flatten) :=
    adds_recordFields (fun t _ => adds_recordsOf t) o s1 rss s2 hs1 h2
  have hat := atRule_of_entered hs he hk2
  have hcurrent : (s.fieldsLeft s2).levels.current = nodesOf rss.flatten := by
    rw [← hat.current, State.touched, Levels.current_touch]
  rw [run_bind_of_ok (run_leaveFields he hk2 (.inl rfl) o), run_bind_of_ok (run_children o _),
    hcurrent] at h
  obtain ⟨p, s3, h3, h⟩ := run_bind_ok h
  have hl : 0 < s3.levels.level := by
    obtain ⟨ps, hps⟩ := kept_rule hw (hat.ready hs) h3
    have h0 := hs.level
    have hl1 : s3.levels.level = s.levels.level + 1 := by
      rw [hps.level, ← hat.level]
      split_ifs <;> rfl
    omega
  obtain ⟨tr, hclose⟩ := run_closeNode hl k p o
  rw [run_bind_of_ok (hclose closeLevel (.inl rfl))] at h
  cases h
  exact ⟨s1, s2, s3, rss, he, hs1, h2, hat.ready hs, h3, rfl, rfl⟩

/-- The rule starts with the names that the fields left, and its own names are those that the node
leaves. -/
theorem run_record {r : Record} (hs : Ready s) (h : run (record k fs) o s = (.ok r, s')) :
    ∃ s1 s2 s3 rss, Entered k s s1 ∧ Ready s1 ∧ run (recordFields fs) o s1 = (.ok rss, s2) ∧
      run (rule k (walkAll fs) (nodesOf rss.flatten)) o (s.fieldsLeft s2).touched =
        (.ok r.result, s3) ∧
      r = .mk (.node k fs) r.result rss ∧ s'.scope = s3.scope := by
  obtain ⟨s1, s2, s3, rss, he, hs1, hfields, -, hrule, hr, hend⟩ := run_record_stages hs h
  exact ⟨s1, s2, s3, rss, he, hs1, hfields, hrule, hr, by rw [hend]⟩

/-- What holds of the records of every field and lasts from scope to scope holds of all of them. -/
theorem forall_recordFields {R : Scope → Scope → Prop} {Q : Scope → Record → Prop}
    (hrefl : ∀ a, R a a) (htrans : ∀ {a b c}, R a b → R b c → R a c)
    (hmono : ∀ {a b r}, R a b → Q a r → Q b r)
    (h : ∀ t ∈ fs, ∀ s rs s', Ready s → run (recordsOf t) o s = (.ok rs, s') →
      R s.scope s'.scope ∧ ∀ r ∈ rs, Q s'.scope r)
    {rss : List (List Record)} (hs : Ready s) (hrun : run (recordFields fs) o s = (.ok rss, s')) :
    R s.scope s'.scope ∧ ∀ r ∈ rss.flatten, Q s'.scope r := by
  induction fs generalizing s rss with
  | nil =>
    cases hrun
    exact ⟨hrefl _, by simp⟩
  | cons t fs ih =>
    obtain ⟨rs, s1, h1, hrun⟩ := run_bind_ok hrun
    obtain ⟨rss', s2, h2, hrun⟩ := run_bind_ok hrun
    cases hrun
    obtain ⟨hfirst, hrs⟩ := h t (by simp) s rs s1 hs h1
    obtain ⟨hrest, hrss⟩ := ih (fun u hu => h u (by simp [hu]))
      ((adds_recordsOf t o s rs s1 hs h1).ready hs) h2
    refine ⟨htrans hfirst hrest, fun r hr => ?_⟩
    rcases List.mem_append.1 hr with hr | hr
    · exact hmono hrest (hrs r hr)
    · exact hrss r hr

end

/-! Records by themselves -/

/-- Some walk over what a field holds gave these records. -/
def Recorded (o : Options) (t : Tree) (rs : List Record) : Prop :=
  ∃ s s', Ready s ∧ run (recordsOf t) o s = (.ok rs, s')

section

variable {k : Kind} {fs ts : List Tree} {o : Options} {s s' : State}

theorem recorded_of_run {r : Record} (hs : Ready s) (h : run (record k fs) o s = (.ok r, s')) :
    Recorded o (.node k fs) [r] :=
  ⟨s, s', hs, (run_bind_of_ok h _).trans rfl⟩

theorem recorded_fields {rss : List (List Record)} (hs : Ready s)
    (h : run (recordFields fs) o s = (.ok rss, s')) : List.Forall₂ (Recorded o) fs rss := by
  induction fs generalizing s rss with
  | nil =>
    cases h
    exact .nil
  | cons t fs ih =>
    obtain ⟨rs, s1, h1, h⟩ := run_bind_ok h
    obtain ⟨rss', s2, h2, h⟩ := run_bind_ok h
    cases h
    exact .cons ⟨s, s1, hs, h1⟩ (ih ((adds_recordsOf t o s rs s1 hs h1).ready hs) h2)

/-- The record of a node: its rule has made the result from what the fields added. -/
theorem recorded_node {rs : List Record} (h : Recorded o (.node k fs) rs) :
    ∃ p rss, rs = [.mk (.node k fs) p rss] ∧ List.Forall₂ (Recorded o) fs rss ∧
      ∃ s s', run (rule k (walkAll fs) (nodesOf rss.flatten)) o s = (.ok p, s') := by
  obtain ⟨s, s', hs, h⟩ := h
  obtain ⟨r, s1, hr, h⟩ := run_bind_ok h
  cases h
  obtain ⟨s1, s2, s3, rss, -, hs1, hfields, hrule, hr, -⟩ := run_record hs hr
  exact ⟨r.result, rss, by rw [← hr], recorded_fields hs1 hfields, _, s3, hrule⟩

/-- The records of a list: one for each of its nodes. -/
theorem recorded_list {rs : List Record} (h : Recorded o (.list ts) rs) :
    List.Forall₂ (fun t r => Recorded o t [r]) (ts.filter Tree.isNode) rs := by
  obtain ⟨s, s', hs, h⟩ := h
  change run (recordMembers ts) o s = _ at h
  induction ts generalizing s rs with
  | nil =>
    cases h
    exact .nil
  | cons t ts ih =>
    obtain ⟨rs1, s1, h1, h⟩ := run_bind_ok h
    obtain ⟨rs2, s2, h2, h⟩ := run_bind_ok h
    cases h
    cases t with
    | node k fs =>
      have hs1 : Ready s1 := (adds_recordsOf (.node k fs) o s rs1 s1 hs h1).ready hs
      obtain ⟨p, rss, rfl, -⟩ := recorded_node ⟨s, s1, hs, h1⟩
      exact .cons ⟨s, s1, hs, h1⟩ (ih s1 hs1 h2)
    | _ =>
      cases h1
      exact ih s hs h2

end

/-! Trees of which runs are recorded -/

def nameNode (n : String) : Tree := .node .name [.text n, .node (.use .load) []]

def nameStatement (n : String) : Tree := .node .exprStmt [nameNode n]

end Transpile.Walk
