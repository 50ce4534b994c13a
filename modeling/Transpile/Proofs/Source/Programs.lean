import Transpile.Proofs.Closure.Rows
import Transpile.Proofs.Source.Expressions
import Transpile.Proofs.Source.Tokens
import Transpile.Source.Parse

/-! Source texts give programs: their trees are modules of statements, in both shapes. -/

namespace Transpile.Source

open Walk (isStatementKind)

/-- A statement that may stand in a program. -/
structure IsStatement (t : Tree) : Prop where
  part : Part t
  kind : t.kind?.any isStatementKind = true

theorem IsStatement.isStatementTree {t : Tree} (h : IsStatement t) : Walk.isStatementTree t = true := by
  have hkind := h.kind
  cases t with
  | node k fs =>
    have hfs := h.part.inner
    simp only [Walk.contains, Bool.or_eq_false_iff] at hfs
    exact Bool.and_eq_true_iff.2 ⟨hkind, by rw [hfs.2]; rfl⟩
  | _ => cases hkind

theorem isStatement_node {k : Kind} {fs : List Tree} (hk : isStatementKind k = true)
    (h : ∀ t ∈ fs, Part t) : IsStatement (.node k fs) := by
  have hm : k ≠ .module := by
    rintro rfl
    cases hk
  exact ⟨part_node_iff.2 ⟨hm, h⟩, hk⟩

namespace Grammar

open Reader

section

variable {nested : Nested} (hn : ∀ l, Gives Part (nested l))

include hn

theorem gives_singleTarget : Gives Part (singleTarget nested) :=
  yields_bind (hn _) fun _ ht => yields_lift fun _ => part_single? ht

theorem gives_annotated : Gives IsStatement (annotated nested) := by
  refine yields_bind (yields_orElse ?_ (gives_singleTarget hn)) fun target htarget => ?_
  · exact yields_seqLeft (yields_seqRight (yields_op _) (gives_singleTarget hn)) (yields_op _)
  refine yields_bind (yields_op _) fun _ _ => yields_bind (hn _) fun t ht => ?_
  refine yields_bind (yields_after? (gives_yieldOrStar hn) _) fun v hv => yields_pure ?_
  exact isStatement_node (by decide) (by simpa using ⟨htarget, ht, part_opt hv⟩)

theorem gives_augmented {t : Tree} (ht : Part t) : Gives IsStatement (augmented nested t) := by
  refine yields_bind (yields_choose _) fun o _ => ?_
  refine yields_bind (yields_lift fun t' => part_single? ht) fun target htarget => ?_
  refine yields_bind (gives_yieldOrStar hn) fun v hv => yields_pure ?_
  exact isStatement_node (by decide) (by simpa using ⟨htarget, hv⟩)

theorem gives_assignment {t : Tree} (ht : Part t) : Gives IsStatement (assignment nested t) := by
  refine yields_bind (yields_many1 (yields_seqRight (yields_op _) (gives_yieldOrStar hn))) fun ts hts => ?_
  have hparts : ∀ u ∈ t :: ts.dropLast, Part u :=
    List.forall_mem_cons.2 ⟨ht, fun u hu => hts u ((List.dropLast_sublist ts).mem hu)⟩
  refine yields_bind (yields_lift fun ts' => part_targets? .store hparts) fun targets htargets => ?_
  split
  · next v hv =>
    refine yields_pure (isStatement_node (by decide) ?_)
    simpa using ⟨htargets, hts v (List.mem_of_getLast? hv)⟩
  · exact yields_failure

theorem gives_expressionStmt : Gives IsStatement (expressionStmt nested) := by
  refine yields_orElse (gives_annotated hn) (yields_bind (gives_yieldOrStar hn) fun t ht => ?_)
  have hexpr : Gives IsStatement (pure (.node .exprStmt [t]) : Reader Tree) :=
    yields_pure (isStatement_node (by decide) (by simpa using ht))
  refine yields_bind (yields_peek? 0) fun _ _ => ?_
  split
  · exact gives_assignment hn ht
  · exact yields_ite (gives_augmented hn ht) hexpr
  · exact hexpr

omit hn in
theorem part_spot (n : Nat) : Part (spot n) := part_atom_iff.2 (break_notMem_toString n)

omit hn in
theorem yields_spanned {α : Type} {P : α → Prop} {r : Reader α} (h : Gives P r) :
    Gives (fun s => P s.1) (spanned r) := by
  intro ts a rest hts hr
  obtain ⟨⟨b, rest'⟩, hb, hr⟩ := Option.bind_eq_some_iff.1 hr
  cases hr
  exact h ts _ rest hts hb

omit hn in
theorem gives_aliasOf {imported : Reader String} (h : Gives (fun s => '\n' ∉ s.toList) imported) :
    Gives Part (aliasOf imported) := by
  have hread : Gives (fun r => '\n' ∉ r.1.toList ∧ ∀ s, r.2 = some s → '\n' ∉ s.toList)
      (do return (← imported, ← after? (.keyword "as") name)) :=
    yields_bind h fun s hs => yields_bind (yields_after? yields_name _) fun o ho => yields_pure ⟨hs, ho⟩
  refine yields_bind (yields_spanned hread) fun r hr => yields_pure ?_
  simpa using ⟨hr.1, part_opt_text hr.2, part_spot _, part_spot _, part_spot _, part_spot _⟩

omit hn in
theorem gives_dottedName : Gives (fun s => '\n' ∉ s.toList) dottedName := by
  refine yields_bind yields_name fun s hs => ?_
  refine yields_bind (yields_many (yields_seqRight (yields_op _) yields_name)) fun ss hss => ?_
  refine yields_pure (break_notMem_intercalate (by decide) (List.forall_mem_cons.2 ⟨hs, hss⟩))

omit hn in
theorem gives_importStmt : Gives IsStatement importStmt := by
  refine yields_bind (yields_keyword _) fun _ _ => ?_
  refine yields_bind (yields_commas (gives_aliasOf gives_dottedName)) fun ts hts => yields_pure ?_
  exact isStatement_node (by decide) (by simpa using hts)

omit hn in
theorem gives_importFrom : Gives IsStatement importFrom := by
  have hnames : Gives (fun ts => ∀ t ∈ ts, Part t)
      ((do let star ← aliasOf (op "*" *> pure "*"); return [star])
        <|> (op "(" *> commasEnd (aliasOf name) <* op ")") <|> commas (aliasOf name)) := by
    refine yields_orElse ?_ (yields_orElse ?_ ?_)
    · have hstar : Gives (fun s => '\n' ∉ s.toList) (op "*" *> pure "*" : Reader String) :=
        yields_seqRight (yields_op _) (yields_pure (by decide))
      exact yields_bind (gives_aliasOf hstar) fun t ht => yields_pure (by simpa using ht)
    · exact yields_seqLeft (yields_seqRight (yields_op _) (yields_commasEnd (gives_aliasOf yields_name)))
        (yields_op _)
    · exact yields_commas (gives_aliasOf yields_name)
  refine yields_bind (yields_keyword _) fun _ _ => yields_bind (yields_many (yields_choose _)) fun dots _ => ?_
  refine yields_bind (yields_optional gives_dottedName) fun m hm => ?_
  have hrest : Gives IsStatement
      (do
        keyword "import"
        let names ←
          (do let star ← aliasOf (op "*" *> pure "*"); return [star])
          <|> (op "(" *> commasEnd (aliasOf name) <* op ")")
          <|> commas (aliasOf name)
        return .node .importFrom [.opt (m.map .text), .list names, spot (dots.foldl (· + ·) 0)]) := by
    refine yields_bind (yields_keyword _) fun _ _ => yields_bind hnames fun ts hts => yields_pure ?_
    exact isStatement_node (by decide) (by simpa using ⟨part_opt_text hm, hts, part_spot _⟩)
  exact yields_ite (yields_bind yields_failure (P := fun _ => True) fun _ _ => hrest) hrest

theorem gives_raiseStmt : Gives IsStatement (raiseStmt nested) := by
  have hparts : Gives (fun r => Part r.1 ∧ ∀ t, r.2 = some t → Part t)
      (do return (← nested .expression, ← after? (.keyword "from") (nested .expression))) :=
    yields_bind (hn _) fun t ht => yields_bind (yields_after? (hn _) _) fun o ho => yields_pure ⟨ht, ho⟩
  refine yields_bind (yields_keyword _) fun _ _ => yields_bind (yields_optional hparts) fun o ho => ?_
  refine yields_pure (isStatement_node (by decide) ?_)
  cases o with
  | none => simp [Tree.opt]
  | some r => simpa using ⟨(ho r rfl).1, part_opt (ho r rfl).2⟩

theorem gives_assertStmt : Gives IsStatement (assertStmt nested) := by
  refine yields_bind (yields_keyword _) fun _ _ => yields_bind (hn _) fun t ht => ?_
  refine yields_bind (yields_after? (hn _) _) fun o ho => yields_pure ?_
  exact isStatement_node (by decide) (by simpa using ⟨ht, part_opt ho⟩)

theorem gives_deleteStmt : Gives IsStatement (deleteStmt nested) := by
  refine yields_bind (yields_keyword _) fun _ _ => ?_
  refine yields_bind (yields_commasEnd (yields_bind (hn _) fun t ht =>
    yields_lift fun t' => part_target? .del ht)) fun ts hts => yields_pure ?_
  exact isStatement_node (by decide) (by simpa using hts)

omit hn in
theorem gives_names : Gives Part names := by
  refine yields_bind (yields_commas yields_name) fun ss hss => yields_pure ?_
  exact part_list_iff.2 (List.forall_mem_map.2 fun s hs => part_atom_iff.2 (hss s hs))

theorem gives_simpleStmt : Gives IsStatement (simpleStmt nested) := by
  have hword : ∀ {k : Kind}, isStatementKind k = true →
      Gives IsStatement (next *> pure (.node k []) : Reader Tree) := fun hk =>
    yields_seqRight yields_next (yields_pure (isStatement_node hk (by simp)))
  refine yields_bind (yields_peek? 0) fun _ _ => ?_
  split
  · refine yields_bind (yields_keyword _) fun _ _ => ?_
    refine yields_bind (yields_optional (gives_starExpressions hn)) fun o ho => yields_pure ?_
    exact isStatement_node (by decide) (by simpa using part_opt ho)
  · exact gives_importStmt
  · exact gives_importFrom
  · exact gives_raiseStmt hn
  · exact hword (by decide)
  · exact hword (by decide)
  · exact hword (by decide)
  · exact gives_deleteStmt hn
  · exact gives_assertStmt hn
  · refine yields_seqRight yields_next (yields_bind gives_names fun t ht => yields_pure ?_)
    exact isStatement_node (by decide) (by simpa using ht)
  · refine yields_seqRight yields_next (yields_bind gives_names fun t ht => yields_pure ?_)
    exact isStatement_node (by decide) (by simpa using ht)
  · exact gives_expressionStmt hn

theorem gives_simpleStmts : Gives (fun ts => ∀ t ∈ ts, IsStatement t) (simpleStmts nested) := by
  refine yields_bind (gives_simpleStmt hn) fun t ht => ?_
  refine yields_bind (yields_many (yields_seqRight (yields_op _) (gives_simpleStmt hn))) fun ts hts => ?_
  refine yields_bind (yields_discard (yields_optional (yields_op _))) fun _ _ => ?_
  refine yields_bind (yields_accept _) fun _ _ => yields_pure (List.forall_mem_cons.2 ⟨ht, hts⟩)

/-! Compound statements -/

variable {stmts : Reader (List Tree)} (hs : Gives (fun ts => ∀ t ∈ ts, IsStatement t) stmts)

include hs

theorem gives_block : Gives Part (block nested stmts) := by
  refine yields_bind (yields_op _) fun _ _ => yields_orElse ?_ (yields_map ?_)
  · refine yields_bind (yields_accept _) fun _ _ => yields_bind (yields_accept _) fun _ _ => ?_
    refine yields_bind (yields_seqLeft (yields_many1 hs) (yields_accept _)) fun tss htss => yields_pure ?_
    refine part_list_iff.2 fun t ht => ?_
    obtain ⟨ts, hts, ht⟩ := List.mem_flatten.1 ht
    exact (htss ts hts t ht).part
  · exact (gives_simpleStmts hn).imp fun ts hts => part_list_iff.2 fun t ht => (hts t ht).part

omit hn hs in
theorem part_getD {o : Option Tree} (h : ∀ t, o = some t → Part t) : Part (o.getD (.list [])) := by
  cases o with
  | none => simp
  | some t => exact h t rfl

theorem gives_elseBlock (word : String) : Gives Part (elseBlock nested stmts word) :=
  yields_bind (yields_after? (gives_block hn hs) _) fun _ ho => yields_pure (part_getD ho)

theorem gives_ifStmt : Gives IsStatement (ifStmt nested stmts) := by
  have hmore : Gives (fun m => Part m.1 ∧ Part m.2)
      (do
        keyword "elif"
        return (← named nested, ← block nested stmts)) := by
    refine yields_bind (yields_keyword _) fun _ _ => yields_bind (gives_named hn) fun t ht => ?_
    exact yields_bind (gives_block hn hs) fun b hb => yields_pure ⟨ht, hb⟩
  refine yields_bind (yields_keyword _) fun _ _ => yields_bind (gives_named hn) fun t ht => ?_
  refine yields_bind (gives_block hn hs) fun b hb => yields_bind (yields_many hmore) fun more hms => ?_
  refine yields_bind (gives_elseBlock hn hs _) fun last hlast => yields_pure ?_
  have hother : Part (more.foldr (fun m other => .list [.node .ifStmt [m.1, m.2, other]]) last) := by
    induction more with
    | nil => exact hlast
    | cons m more ih =>
      obtain ⟨hm, hms⟩ := List.forall_mem_cons.1 hms
      exact part_list_iff.2 (by simpa using ⟨hm.1, hm.2, ih hms⟩)
  exact isStatement_node (by decide) (by simp [-part_list_iff, ht, hb, hother])

theorem gives_whileStmt : Gives IsStatement (whileStmt nested stmts) := by
  refine yields_bind (yields_keyword _) fun _ _ => yields_bind (gives_named hn) fun t ht => ?_
  refine yields_bind (gives_block hn hs) fun b hb => yields_bind (gives_elseBlock hn hs _) fun e he => ?_
  exact yields_pure (isStatement_node (by decide) (by simpa using ⟨ht, hb, he⟩))

theorem gives_forStmt : Gives IsStatement (forStmt nested stmts) := by
  refine yields_bind (yields_keyword _) fun _ _ => yields_bind (gives_starTargets hn) fun t ht => ?_
  refine yields_bind (yields_keyword _) fun _ _ => yields_bind (gives_starExpressions hn) fun i hi => ?_
  refine yields_bind (gives_block hn hs) fun b hb => yields_bind (gives_elseBlock hn hs _) fun e he => ?_
  exact yields_pure (isStatement_node (by decide) (by simpa using ⟨ht, hi, hb, he⟩))

omit hs in
theorem gives_withItem : Gives Part (withItem nested) := by
  refine yields_bind (hn _) fun t ht => ?_
  refine yields_bind (yields_after? (gives_starTarget hn _) _) fun o ho => yields_pure ?_
  simpa using ⟨ht, part_opt ho⟩

theorem gives_withStmt : Gives IsStatement (withStmt nested stmts) := by
  have hread : Gives (fun r => (∀ t ∈ r.1, Part t) ∧ Part r.2)
      ((do
        op "("
        let items ← commasEnd (withItem nested)
        op ")"
        return (items, ← block nested stmts))
      <|> (do return (← commas (withItem nested), ← block nested stmts))) := by
    refine yields_orElse (yields_bind (yields_op _) fun _ _ => ?_) ?_
    · refine yields_bind (yields_commasEnd (gives_withItem hn)) fun ts hts => ?_
      refine yields_bind (yields_op _) fun _ _ => yields_bind (gives_block hn hs) fun b hb => ?_
      exact yields_pure ⟨hts, hb⟩
    · refine yields_bind (yields_commas (gives_withItem hn)) fun ts hts => ?_
      exact yields_bind (gives_block hn hs) fun b hb => yields_pure ⟨hts, hb⟩
  refine yields_bind (yields_keyword _) fun _ _ => yields_bind hread fun r hr => yields_pure ?_
  exact isStatement_node (by decide) (by simpa using hr)

theorem gives_handler : Gives Part (handler nested stmts) := by
  have hcaught : Gives (fun r => Part r.1 ∧ ∀ s, r.2 = some s → '\n' ∉ s.toList)
      (do return (← nested .expression, ← after? (.keyword "as") name)) :=
    yields_bind (hn _) fun t ht => yields_bind (yields_after? yields_name _) fun o ho =>
      yields_pure ⟨ht, ho⟩
  refine yields_bind (yields_keyword _) fun _ _ => yields_bind (yields_optional hcaught) fun o ho => ?_
  refine yields_bind (gives_block hn hs) fun b hb => yields_pure ?_
  cases o with
  | none => simpa [Tree.opt] using hb
  | some r => simpa using ⟨(ho r rfl).1, part_opt_text (ho r rfl).2, hb⟩

theorem gives_tryStmt : Gives IsStatement (tryStmt nested stmts) := by
  refine yields_bind (yields_keyword _) fun _ _ => yields_bind (gives_block hn hs) fun b hb => ?_
  refine yields_bind (yields_many (gives_handler hn hs)) fun handlers hhandlers => ?_
  have hlast : ∀ {other : Tree}, Part other → Gives IsStatement
      (do
        let last ← after? (.keyword "finally") (block nested stmts)
        if handlers.isEmpty && last.isNone then failure
        return .node .tryStmt [b, .list handlers, other, last.getD (.list [])]) := by
    intro other hother
    refine yields_bind (yields_after? (gives_block hn hs) _) fun last hlast => ?_
    have hnode : IsStatement (.node .tryStmt [b, .list handlers, other, last.getD (.list [])]) :=
      isStatement_node (by decide) (by simpa using ⟨hb, hhandlers, hother, part_getD hlast⟩)
    exact yields_ite (yields_bind yields_failure (P := fun _ => True) fun _ _ => yields_pure hnode)
      (yields_pure hnode)
  refine yields_ite (yields_bind (yields_pure (part_list_iff.2 (by simp))) fun _ => hlast) ?_
  exact yields_bind (gives_elseBlock hn hs _) fun _ => hlast

omit hs in
theorem gives_typedArg : Gives Part (typedArg nested) := by
  refine yields_bind yields_name fun s hs => yields_bind (yields_after? (hn _) _) fun o ho => ?_
  exact yields_pure (by simpa using ⟨hs, part_opt ho⟩)

omit hs in
theorem gives_starTypedArg : Gives Part (starTypedArg nested) := by
  refine yields_bind yields_name fun s hs => ?_
  refine yields_bind (yields_after? (gives_starExpression hn) _) fun o ho => yields_pure ?_
  simpa using ⟨hs, part_opt ho⟩

theorem gives_functionDef {ds : List Tree} (hds : ∀ t ∈ ds, Part t) :
    Gives IsStatement (functionDef nested stmts ds) := by
  refine yields_bind (yields_keyword _) fun _ _ => yields_bind yields_name fun s hname => ?_
  refine yields_bind (yields_op _) fun _ _ => ?_
  refine yields_bind (gives_params hn (gives_typedArg hn) (gives_starTypedArg hn)) fun ps hps => ?_
  refine yields_bind (yields_op _) fun _ _ => yields_bind (yields_after? (hn _) _) fun r hr => ?_
  refine yields_bind (gives_block hn hs) fun b hb => yields_pure ?_
  exact isStatement_node (by decide) (by simpa using ⟨hname, hps, hb, hds, part_opt hr⟩)

theorem gives_classDef {ds : List Tree} (hds : ∀ t ∈ ds, Part t) :
    Gives IsStatement (classDef nested stmts ds) := by
  have hbases : Gives (fun r => Part r.1 ∧ Part r.2)
      ((op "(" *> classArguments nested) <|> pure (.list [], .list [])) :=
    yields_orElse (yields_seqRight (yields_op _) (gives_classArguments hn)) (yields_pure (by simp))
  refine yields_bind (yields_keyword _) fun _ _ => yields_bind yields_name fun s hname => ?_
  refine yields_bind hbases fun r hr => yields_bind (gives_block hn hs) fun b hb => yields_pure ?_
  exact isStatement_node (by decide) (by simpa using ⟨hname, hr.1, hr.2, hb, hds⟩)

theorem gives_decorated : Gives IsStatement (decorated nested stmts) := by
  refine yields_bind (yields_many1 (yields_seqLeft (yields_seqRight (yields_op _) (gives_named hn))
    (yields_accept _))) fun ds hds => ?_
  exact yields_orElse (gives_functionDef hn hs hds) (gives_classDef hn hs hds)

theorem gives_stmtLine : Gives (fun ts => ∀ t ∈ ts, IsStatement t) (stmtLine nested stmts) := by
  have hone : ∀ {r : Reader Tree}, Gives IsStatement r →
      Gives (fun ts => ∀ t ∈ ts, IsStatement t) (do return [← r]) := fun hr =>
    yields_bind hr fun t ht => yields_pure (by simpa using ht)
  refine yields_bind (yields_peek? 0) fun _ _ => ?_
  split
  · exact hone (gives_ifStmt hn hs)
  · exact hone (gives_whileStmt hn hs)
  · exact hone (gives_forStmt hn hs)
  · exact hone (gives_withStmt hn hs)
  · exact hone (gives_tryStmt hn hs)
  · exact hone (gives_functionDef hn hs (by simp))
  · exact hone (gives_classDef hn hs (by simp))
  · exact hone (gives_decorated hn hs)
  · exact gives_simpleStmts hn

end

theorem gives_stmt {nested : Nested} (hn : ∀ l, Gives Part (nested l)) (n : Nat) :
    Gives (fun ts => ∀ t ∈ ts, IsStatement t) (stmt nested n) := by
  induction n with
  | zero => exact yields_failure
  | succ n ih => exact gives_stmtLine hn ih

/-- All tokens together make a module of statements. -/
theorem module_eq {tokens rest : List Token} (htokens : ∀ t ∈ tokens, t.tok.Unbroken) {t : Tree}
    (h : Grammar.module tokens = some (t, rest)) :
    ∃ ts, t = .node .module [.list ts] ∧ ∀ u ∈ ts, IsStatement u := by
  unfold Grammar.module at h
  obtain ⟨⟨tss, left⟩, hread, h⟩ := Option.bind_eq_some_iff.1 h
  have htss := (yields_many (gives_stmt (gives_expr _) _) tokens tss left htokens hread).1
  cases left with
  | nil =>
    cases h
    refine ⟨tss.flatten, rfl, fun u hu => ?_⟩
    obtain ⟨ts, hts, hu⟩ := List.mem_flatten.1 hu
    exact htss ts hts u hu
  | cons _ _ => cases h

end Grammar

/-! The classic shape -/

theorem part_ofConstant {a : Atom} (h : '\n' ∉ a.shown.toList) : Part (Tree.ofConstant a) := by
  unfold Tree.ofConstant
  split
  · exact part_ident_iff.2 (by decide)
  · exact part_ident_iff.2 (by decide)
  · exact part_ident_iff.2 (by decide)
  · simpa using h
  · simpa using h
  · simpa using h
  · simpa using h
  · simp

theorem Part.dimensions {t : Tree} (h : Part t) : Part t.dimensions := by
  have hindex : ∀ {t : Tree}, Part t → Part (Tree.index t) := fun h => by simpa [Tree.index] using h
  unfold Tree.dimensions
  split_ifs
  · exact h
  · split
    · next ts u =>
      split_ifs
      · simp only [part_node_iff, part_list_iff, List.forall_mem_cons] at h
        refine part_node_iff.2 ⟨by decide, ?_⟩
        simp only [List.forall_mem_singleton, part_list_iff, List.forall_mem_map]
        intro t ht
        split_ifs
        · exact h.2.1 t ht
        · exact hindex (h.2.1 t ht)
      · exact hindex h
    · exact hindex h

theorem part_classicNode {k : Kind} {fs : List Tree} (h : Part (.node k fs)) :
    Part (Tree.classicNode k fs) := by
  unfold Tree.classicNode
  split
  · exact part_ofConstant (by simpa using h)
  · simp only [part_node_iff, List.forall_mem_cons] at h
    refine part_node_iff.2 ⟨by decide, ?_⟩
    simpa using ⟨h.2.1, h.2.2.1.dimensions, h.2.2.2.1⟩
  · exact h

mutual

theorem Part.classic {t : Tree} (h : Part t) : Part t.classic := by
  cases t with
  | node k fs =>
    obtain ⟨hk, hfs⟩ := part_node_iff.1 h
    exact part_classicNode (part_node_iff.2 ⟨hk, part_classicAll hfs⟩)
  | list ts => exact part_list_iff.2 (part_classicAll (part_list_iff.1 h))
  | atom a => exact h
  | missing => exact h

theorem part_classicAll {ts : List Tree} (h : ∀ t ∈ ts, Part t) :
    ∀ t ∈ Tree.classicAll ts, Part t := by
  cases ts with
  | nil => exact h
  | cons t ts =>
    obtain ⟨ht, hts⟩ := List.forall_mem_cons.1 h
    exact List.forall_mem_cons.2 ⟨ht.classic, part_classicAll hts⟩

end

theorem IsStatement.classic {t : Tree} (h : IsStatement t) : IsStatement t.classic := by
  refine ⟨h.part.classic, ?_⟩
  have hkind := h.kind
  cases t with
  | node k fs =>
    have hk : isStatementKind k = true := hkind
    have heq : Tree.classicNode k (Tree.classicAll fs) = .node k (Tree.classicAll fs) := by
      unfold Tree.classicNode
      split
      · cases hk
      · cases hk
      · rfl
    rw [Tree.classic, heq]
    exact hk
  | _ => cases hkind

theorem classicAll_eq (ts : List Tree) : Tree.classicAll ts = ts.map Tree.classic := by
  induction ts with
  | nil => rfl
  | cons t ts ih => rw [Tree.classicAll, ih, List.map_cons]

/-- The tree of a source text is a module of statements, whatever its shape. -/
theorem parse?_eq {shape : Shape} {source : String} {t : Tree} (h : parse? shape source = some t)
    (hs : ∀ tokens, tokens? source = some tokens →
      ∀ u ∈ tokens, ∀ s, u.tok = .string s → '\n' ∉ s.toList) :
    ∃ ts, t = .node .module [.list ts] ∧ ∀ u ∈ ts, IsStatement u := by
  obtain ⟨tokens, htokens, h⟩ := Option.bind_eq_some_iff.1 h
  obtain ⟨⟨t', rest⟩, hmodule, h⟩ := Option.bind_eq_some_iff.1 h
  cases h
  have hunbroken := unbroken_of_tokens? htokens (hs tokens htokens)
  obtain ⟨ts, rfl, hts⟩ := Grammar.module_eq hunbroken hmodule
  cases shape with
  | plain => exact ⟨ts, rfl, hts⟩
  | classic =>
    refine ⟨Tree.classicAll ts, rfl, ?_⟩
    rw [classicAll_eq]
    exact List.forall_mem_map.2 fun u hu => (hts u hu).classic

end Transpile.Source
