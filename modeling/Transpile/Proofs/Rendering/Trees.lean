import Transpile.Proofs.Layout.Tree
import Transpile.Proofs.Rendering.Forms

/-! Whole trees that are rendered. Main statements: a rendering that succeeds ends at the level where
it started, so that what was rendered before makes no difference; and its brackets are nested if
those of every value in the tree are. -/

namespace Transpile.Script

open Render Text

section

variable {R : List Char → String → List Char → Prop} {unit : String} {m : Marks}

theorem returns_missing {P : String → Prop} :
    Returns unit 0 0 (do deeper; throw .missingAttribute) P := by
  intro level a level' hr
  cases hr

/-- A part that a form in the place of a case is read by, before that fails. -/
theorem returns_notCase {p : Piece} (hp : p.Steady R unit) {P : String → Prop} :
    Returns unit 0 0 (do let _ ← p.render; deeper; throw .missingAttribute) P :=
  returns_bind hp.run fun _ _ => returns_missing

variable (hR : Tracks R)

include hR

theorem even_quoted_items {xs : List Piece} (h : ∀ x ∈ xs, Even R x.quoted) :
    Even R (Piece.items xs).quoted := by
  have hmembers : Even R (", ".intercalate (quotedAll xs)) := by
    refine even_intercalate hR (even_word hR (by decide)) ?_
    simpa [quotedAll_eq_map] using h
  intro owed
  rw [Piece.quoted]
  exact hR.append (hR.append (hR.word rfl) (hmembers _)) (hR.word rfl)

theorem Seq.Steady.even_host {s : Seq} (h : s.Steady R unit) : Even R s.host.quoted := by
  cases s with
  | items xs => exact even_quoted_items hR fun x hx => (h x hx).quoted
  | spread host xs => exact (h host (.head _)).quoted
  | single host => exact (h host (.head _)).quoted

/-- What is no form is rendered as it is quoted, and cannot stand in the place of a case. -/
theorem steady_raw {p : Piece} (hshown : Even R p.shown) (hquoted : Even R p.quoted)
    (hvalue : p.value = .error .missingAttribute) (hrender : p.render = unruled p)
    (hcase : p.renderCase = throw .missingAttribute)
    (hdefault : p.renderDefault = (do deeper; throw .missingAttribute)) : p.Steady R unit where
  shown := hshown
  quoted := hquoted
  value := by
    intro v hv
    rw [hvalue] at hv
    cases hv
  run := by
    rw [hrender]
    exact returns_unruled hR hquoted
  asCase := by
    rw [hcase]
    exact returns_throw
  asDefault := by
    rw [hdefault]
    exact returns_missing

theorem steady_items {xs : List Piece} (h : ∀ x ∈ xs, x.Steady R unit) :
    (Piece.items xs).Steady R unit := by
  have hquoted := even_quoted_items hR fun x hx => (h x hx).quoted
  exact steady_raw hR hquoted hquoted rfl rfl rfl rfl

variable (hunit : Even R unit)

include hunit

/-- One form, its parts being steady. -/
theorem returns_form {f : Form} (h : ∀ q ∈ f.pieces, q.Steady R unit) :
    Returns unit 0 0 (f.render m) (EvenShown R) := by
  cases f with
  | leaf k v => exact Leaf.returns_render hR (h v (.head _)).shown
  | group k s =>
    cases k with
    | program => exact returns_program hR h
    | block => exact returns_block hR hunit h
    | vars => exact returns_vars hR h
    | plain | splice => exact returns_unruled hR (Form.even_quoted hR _)
  | array s => exact returns_array hR h
  | object s => exact returns_object hR hunit h
  | newExpr c s => exact returns_newExpr hR (h c (.head _)) fun q hq => h q (.tail _ hq)
  | call c s => exact returns_call hR (h c (.head _)) fun q hq => h q (.tail _ hq)
  | bracket t n => exact returns_bracket hR (h t (.head _)) (h n (.tail _ (.head _)))
  | dot t n => exact returns_dot hR (h t (.head _)) (h n (.tail _ (.head _)))
  | assign op l r =>
    exact returns_assign hR (h op (.head _)).shown (h l (.tail _ (.head _)))
      (h r (.tail _ (.tail _ (.head _))))
  | getter n b => exact returns_getter hR hunit (h n (.head _)) fun q hq => h q (.tail _ hq)
  | setter n ps b =>
    exact returns_setter hR hunit (h n (.head _))
      (fun q hq => h q (.tail _ (List.mem_append_left _ hq)))
      fun q hq => h q (.tail _ (List.mem_append_right _ hq))
  | varDecl n v => exact returns_varDecl hR (h n (.head _)) (h v (.tail _ (.head _)))
  | unary op x t => exact returns_unary hR (h op (.head _)).shown (h x (.tail _ (.head _)))
  | binary op l r =>
    exact returns_binary hR (h op (.head _)).shown (h l (.tail _ (.head _)))
      (h r (.tail _ (.tail _ (.head _))))
  | conditional t y n =>
    exact returns_conditional hR (h t (.head _)) (h y (.tail _ (.head _)))
      (h n (.tail _ (.tail _ (.head _))))
  | ifThen t y n =>
    exact returns_ifThen hR (h t (.head _)) (h y (.tail _ (.head _)))
      (h n (.tail _ (.tail _ (.head _))))
  | doWhile t b => exact returns_doWhile hR (h t (.head _)) (h b (.tail _ (.head _)))
  | whileDo t b => exact returns_whileDo hR (h t (.head _)) (h b (.tail _ (.head _)))
  | forLoop a t s b =>
    exact returns_forLoop hR (h a (.head _)) (h t (.tail _ (.head _)))
      (h s (.tail _ (.tail _ (.head _)))) (h b (.tail _ (.tail _ (.tail _ (.head _)))))
  | forIn x s b =>
    exact returns_forIn hR (h x (.head _)) (h s (.tail _ (.head _)))
      (h b (.tail _ (.tail _ (.head _))))
  | continueTo l => exact returns_continueTo hR (h l (.head _))
  | breakTo l => exact returns_breakTo hR (h l (.head _))
  | returns v => exact returns_returns hR (h v (.head _))
  | withDo s b => exact returns_withDo hR (h s (.head _)) (h b (.tail _ (.head _)))
  | switch e cs d =>
    exact returns_switch hR hunit (h e (.head _)) (fun q hq => h q (.tail _ (.tail _ hq)))
      (h d (.tail _ (.head _)))
  | caseOf e b =>
    exact returns_caseOf hR hunit (h e (.head _)) (fun q hq => h q (.tail _ hq)) fun _ => returns_say
  | defaultCase b => exact returns_defaultOf hR hunit h fun _ => returns_say
  | label n b => exact returns_label hR (h n (.head _)) (h b (.tail _ (.head _)))
  | throws v => exact returns_throws hR (h v (.head _))
  | tryDo b c f =>
    exact returns_tryDo hR (h b (.head _)) (h c (.tail _ (.head _)))
      (h f (.tail _ (.tail _ (.head _))))
  | catchDo n b =>
    have hb : b.Steady R unit := fun q hq => h q (.tail _ hq)
    exact returns_catchDo hR (h n (.head _)) hb (hb.even_host hR)
  | finallyDo b => exact returns_finallyDo hR h (Seq.Steady.even_host hR h)
  | function k n ps b =>
    have hparams : ps.Steady R unit := fun q hq => h q (.tail _ (List.mem_append_left _ hq))
    have hbody : b.Steady R unit := fun q hq => h q (.tail _ (List.mem_append_right _ hq))
    cases k with
    | base => exact returns_unruled hR (Form.even_quoted hR _)
    | decl => exact returns_functionDecl hR hunit (h n (.head _)) hparams hbody
    | expr => exact returns_functionExpr hR hunit (h n (.head _)) hparams hbody
  | comma l r => exact returns_comma hR (h l (.head _)) (h r (.tail _ (.head _)))
  | exprStatement v => exact returns_exprStatement hR (h v (.head _))
  | this => exact returns_say (even_word hR (by decide))

/-- Of the forms only a case can stand in the place of one. -/
theorem returns_formAsCase {f : Form} (h : ∀ q ∈ f.pieces, q.Steady R unit) :
    Returns unit 0 0 (Piece.node f m).renderCase (Even R) := by
  cases f with
  | caseOf e b =>
    exact returns_caseOf hR hunit (h e (.head _)) (fun q hq => h q (.tail _ hq)) fun _ => returns_pure
  | bracket t e => exact returns_notCase (h e (.tail _ (.head _)))
  | returns e | throws e | exprStatement e => exact returns_notCase (h e (.head _))
  | withDo e b => exact returns_notCase (h e (.head _))
  | switch e cs d => exact returns_notCase (h e (.head _))
  | _ => exact returns_throw

/-- Whatever has a body can stand as the default of a switch. -/
theorem returns_formAsDefault {f : Form} (h : ∀ q ∈ f.pieces, q.Steady R unit) :
    Returns unit 0 0 (Piece.node f m).renderDefault (Even R) := by
  cases f with
  | defaultCase b | finallyDo b => exact returns_defaultOf hR hunit h fun _ => returns_pure
  | caseOf x b | getter x b | catchDo x b =>
    exact returns_defaultOf hR hunit (fun q hq => h q (.tail _ hq)) fun _ => returns_pure
  | setter n ps b | function k n ps b =>
    exact returns_defaultOf hR hunit (fun q hq => h q (.tail _ (List.mem_append_right _ hq)))
      fun _ => returns_pure
  | _ => exact returns_missing

theorem steady_node {f : Form} (h : ∀ q ∈ f.pieces, q.Steady R unit) :
    (Piece.node f m).Steady R unit where
  shown := Form.even_quoted hR f
  quoted := Form.even_quoted hR f
  value := by
    intro v hv
    cases hf : f.value? with
    | none => simp [Piece.value, hf] at hv
    | some w =>
      obtain rfl : w = v := by simpa [Piece.value, hf] using hv
      exact (h w (f.value?_mem hf)).shown
  run := returns_form hR hunit h
  asCase := returns_formAsCase hR hunit h
  asDefault := returns_formAsDefault hR hunit h

end

/-! Levels -/

theorem Seq.sizeOf_lt {s : Seq} {q : Piece} (h : q ∈ s.pieces) : sizeOf q < sizeOf s := by
  cases s with
  | items xs =>
    have := List.sizeOf_lt_of_mem (show q ∈ xs from h)
    simp
    omega
  | spread host xs =>
    rcases List.mem_cons.1 h with rfl | h
    · simp
      omega
    · have := List.sizeOf_lt_of_mem h
      simp
      omega
  | single host =>
    rw [List.mem_singleton.1 h]
    simp

theorem Form.sizeOf_lt {f : Form} {q : Piece} (h : q ∈ f.pieces) : sizeOf q < sizeOf f := by
  have hseq {s : Seq} : q ∈ s.pieces → sizeOf q < sizeOf s := Seq.sizeOf_lt
  cases f <;> simp only [Form.pieces, List.mem_cons, List.mem_append, List.not_mem_nil, or_false] at h
  all_goals grind

/-- Pieces from their parts, whatever stands in the place of a list included. -/
theorem piece_induction {P : Piece → Prop} (atom : ∀ a, P (.atom a)) (record : ∀ es, P (.record es))
    (items : ∀ xs, (∀ x ∈ xs, P x) → P (.items xs))
    (node : ∀ f m, (∀ q ∈ f.pieces, P q) → P (.node f m)) (p : Piece) : P p := by
  induction h : sizeOf p using Nat.strong_induction_on generalizing p with
  | _ n ih =>
    subst h
    cases p with
    | atom a => exact atom a
    | record es => exact record es
    | items xs =>
      refine items xs fun x hx => ih (sizeOf x) ?_ x rfl
      have := List.sizeOf_lt_of_mem hx
      simp
      omega
    | node f m =>
      refine node f m fun q hq => ih (sizeOf q) ?_ q rfl
      have := Form.sizeOf_lt hq
      simp
      omega

/-- Every piece, as far as its levels go. -/
theorem steady_level (unit : String) (p : Piece) : p.Steady (fun _ _ _ => True) unit := by
  induction p using piece_induction with
  | atom a => exact steady_raw tracks_nothing (fun _ => trivial) (fun _ => trivial) rfl rfl rfl rfl
  | record es => exact steady_raw tracks_nothing (fun _ => trivial) (fun _ => trivial) rfl rfl rfl rfl
  | items xs ih => exact steady_items tracks_nothing ih
  | node f m ih => exact steady_node tracks_nothing (fun _ => trivial) ih

theorem level_of_render {p : Piece} {unit : String} {level level' : Nat} {r : Piece}
    (h : p.render unit level = (.ok r, level')) : level' = level :=
  ((steady_level unit p).run level r level' h).1

/-- Renders the pieces one after another, each from the level that the one before it has left. -/
def renderInTurn (width : Int) : List Piece → Nat → List (Except Cause Piece) × Nat
  | [], level => ([], level)
  | p :: ps, level =>
    let first := p.renderAt width level
    let rest := renderInTurn width ps first.2
    (first.1 :: rest.1, rest.2)

theorem renderInTurn_eq {width : Int} {ps : List Piece} {level : Nat}
    (h : ∀ r ∈ (renderInTurn width ps level).1, r.isOk = true) :
    renderInTurn width ps level = (ps.map fun p => (p.renderAt width level).1, level) := by
  induction ps with
  | nil => rfl
  | cons p ps ih =>
    simp only [renderInTurn, List.mem_cons, forall_eq_or_imp] at h
    obtain ⟨hfirst, hrest⟩ := h
    have hlevel : (p.renderAt width level).2 = level := by
      rcases hr : p.renderAt width level with ⟨c | r, level'⟩
      · rw [hr] at hfirst
        cases hfirst
      · exact level_of_render hr
    rw [hlevel] at hrest
    simp only [renderInTurn, hlevel, ih hrest, List.map_cons]

/-- Rendering a piece leaves the level as it was, so pieces that are rendered one after another are
rendered as each of them is by itself. -/
theorem rendering_keeps_level (width : Int) :
    (∀ (p r : Piece) (level level' : Nat),
      p.renderAt width level = (.ok r, level') → level' = level) ∧
    ∀ (ps : List Piece) (level : Nat), (∀ r ∈ (renderInTurn width ps level).1, r.isOk = true) →
      renderInTurn width ps level = (ps.map fun p => (p.renderAt width level).1, level) :=
  ⟨fun _ _ _ _ h => level_of_render h, fun _ _ h => renderInTurn_eq h⟩

/-- A switch without statements, twice. -/
theorem emptySwitch_twice :
    (∀ r ∈ (renderInTurn 1 [emptySwitch, emptySwitch] 0).1, r.isOk = true) ∧
      renderInTurn 1 [emptySwitch, emptySwitch] 0 =
        ([(emptySwitch.renderAt 1 0).1, (emptySwitch.renderAt 1 0).1], 0) := by
  have hok : ∀ r ∈ (renderInTurn 1 [emptySwitch, emptySwitch] 0).1, r.isOk = true := by
    simp [renderInTurn, emptySwitch_renderAt, Except.isOk, Except.toBool]
  exact ⟨hok, (rendering_keeps_level 1).2 _ 0 hok⟩

/-! Brackets -/

/-- `V` holds of every value in the tree: of its atoms and records, wherever they stand. -/
inductive Piece.Over (V : Piece → Prop) : Piece → Prop
  | atom {a : Atom} : V (.atom a) → Piece.Over V (.atom a)
  | record {es : List (String × Atom)} : V (.record es) → Piece.Over V (.record es)
  | items {xs : List Piece} : (∀ x ∈ xs, Piece.Over V x) → Piece.Over V (.items xs)
  | node {f : Form} {m : Marks} : (∀ q ∈ f.pieces, Piece.Over V q) → Piece.Over V (.node f m)

theorem Piece.over_atom_iff {V : Piece → Prop} {a : Atom} : (Piece.atom a).Over V ↔ V (.atom a) :=
  ⟨fun | .atom h => h, .atom⟩

theorem Piece.over_node_iff {V : Piece → Prop} {f : Form} {m : Marks} :
    (Piece.node f m).Over V ↔ ∀ q ∈ f.pieces, q.Over V :=
  ⟨fun | .node h => h, .node⟩

theorem even_of_nested {s : String} (h : Nested s) : Even Reads s := h.reads

theorem Atom.even_quoted {a : Atom} (h : Nested a.shown) : Even Reads a.quoted := by
  cases a with
  | text s => exact even_of_nested h.quoted
  | _ => exact even_of_nested h

theorem even_unitOf (width : Int) : Even Reads (unitOf width) := by
  have hblank : isBracket ' ' = false := by decide
  exact even_word tracks_reads (by simp [unitOf, List.any_replicate, hblank])

theorem steady_of_over {unit : String} (hunit : Even Reads unit) {p : Piece}
    (h : p.Over fun v => Nested v.shown) : p.Steady Reads unit := by
  induction h with
  | atom ha => exact steady_raw tracks_reads (even_of_nested ha) (Atom.even_quoted ha) rfl rfl rfl rfl
  | record hes =>
    exact steady_raw tracks_reads (even_of_nested hes) (even_of_nested hes) rfl rfl rfl rfl
  | items _ ih => exact steady_items tracks_reads ih
  | node _ ih => exact steady_node tracks_reads hunit ih

/-- If every value in a tree is nested, so is the text of the tree. -/
theorem rendered_nested {p : Piece} (hp : p.Over fun v => Nested v.shown) {width : Int}
    {level level' : Nat} {r : Piece} (h : p.renderAt width level = (.ok r, level')) :
    Nested r.shown :=
  ((steady_of_over (even_unitOf width) hp).run level r level' h).2 []

/-- A function in parentheses that takes a part of an array. -/
def partOfArray : Piece :=
  .node (.function .expr .absent (.items [.node (.leaf .ident (.text "a")) {}])
    (.items [.node (.returns (.node (.bracket
      (.node (.array (.items [.node (.leaf .elision (.text ",")) {},
        .node (.leaf .ident (.text "a")) {}])) {})
      (.node (.leaf .string (.text "\"[()]\"")) {})) {})) {}])) { parens := true }

theorem partOfArray_nested : (partOfArray.Over fun v => Nested v.shown) ∧
    partOfArray.renderAt 2 1 =
      (.ok (.text "(function(a) \x7b\n      return [,a][\"[()]\"];\n  \x7d)"), 1) ∧
    Nested "(function(a) \x7b\n      return [,a][\"[()]\"];\n  \x7d)" := by
  have hover : partOfArray.Over fun v => Nested v.shown := by
    simp only [partOfArray, Piece.over_node_iff, Piece.over_atom_iff, Form.pieces, Seq.pieces,
      List.mem_cons, List.mem_append, List.not_mem_nil, or_false, forall_eq_or_imp, forall_eq]
    decide
  have hrun : partOfArray.renderAt 2 1 =
      (.ok (.text "(function(a) \x7b\n      return [,a][\"[()]\"];\n  \x7d)"), 1) := rfl
  have hnested := rendered_nested hover hrun
  exact ⟨hover, hrun, hnested⟩

end Transpile.Script
