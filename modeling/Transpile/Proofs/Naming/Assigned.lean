import Transpile.Proofs.Parts
import Transpile.Proofs.Shapes

/-! The names to which a script tree assigns, apart from those in its functions. The rules of classes
that bind nothing make pieces that assign to no other names than their parts. -/

namespace Transpile.Script

/-- What a form writes to by itself. The properties of an object are not written to. -/
def Form.written : Form → List Piece
  | .assign op l _ => if Walk.keyOf op = some ":" then [] else [l]
  | .varDecl name value => if value.isAbsent then [] else [name]
  | .unary op x _ => if Walk.keyOf op ∈ [some "++", some "--"] then [x] else []
  | .forIn item _ _ => [item]
  | _ => []

/-- The pieces that are run where the form stands: not the names that it has, and not what is run
when a function is called. -/
def Form.inner : Form → List Piece
  | .leaf .. | .function .. | .getter .. | .setter .. => []
  | .varDecl _ value => [value]
  | .catchDo _ body => body.pieces
  | f => f.pieces

/-- The target is the identifier, or it stands in the array. -/
inductive Names (n : String) : Piece → Prop where
  | ident {m : Marks} : Names n (.node (.leaf .ident (.text n)) m)
  | element {s : Seq} {m : Marks} {q : Piece} (hq : q ∈ s.pieces) (h : Names n q) :
      Names n (.node (.array s) m)

/-- Somewhere in the piece, outside of functions, the name is assigned to. -/
inductive Assigns (n : String) : Piece → Prop where
  | here {f : Form} {m : Marks} {q : Piece} (hq : q ∈ f.written) (h : Names n q) :
      Assigns n (.node f m)
  | inside {f : Form} {m : Marks} {q : Piece} (hq : q ∈ f.inner) (h : Assigns n q) :
      Assigns n (.node f m)
  | member {xs : List Piece} {q : Piece} (hq : q ∈ xs) (h : Assigns n q) : Assigns n (.items xs)

def NamesIn (A : String → Prop) (p : Piece) : Prop := ∀ n, Names n p → A n

/-- The piece assigns to such names only. -/
def AssignsIn (A : String → Prop) (p : Piece) : Prop := ∀ n, Assigns n p → A n

/-- A piece that may be written to. -/
structure TargetIn (A : String → Prop) (p : Piece) : Prop where
  names : NamesIn A p
  assigns : AssignsIn A p

section

variable {A B : String → Prop}

theorem AssignsIn.mono {p : Piece} (h : AssignsIn A p) (hAB : ∀ n, A n → B n) : AssignsIn B p :=
  fun n hn => hAB n (h n hn)

theorem TargetIn.mono {p : Piece} (h : TargetIn A p) (hAB : ∀ n, A n → B n) : TargetIn B p :=
  ⟨fun n hn => hAB n (h.names n hn), h.assigns.mono hAB⟩

theorem assignsIn_atom (a : Atom) : AssignsIn A (.atom a) := by
  intro n h
  cases h

theorem assignsIn_record (es : List (String × Atom)) : AssignsIn A (.record es) := by
  intro n h
  cases h

theorem assignsIn_items {ps : List Piece} (h : ∀ p ∈ ps, AssignsIn A p) : AssignsIn A (.items ps) := by
  intro n hn
  cases hn with
  | member hq hn => exact h _ hq n hn

theorem assignsIn_node {f : Form} {m : Marks} (hw : ∀ q ∈ f.written, NamesIn A q)
    (hi : ∀ q ∈ f.inner, AssignsIn A q) : AssignsIn A (.node f m) := by
  intro n hn
  cases hn with
  | here hq hn => exact hw _ hq n hn
  | inside hq hn => exact hi _ hq n hn

/-- A form that writes nothing by itself. -/
theorem assignsIn_of_inner {f : Form} {m : Marks} (hw : f.written = [])
    (hi : ∀ q ∈ f.inner, AssignsIn A q) : AssignsIn A (.node f m) :=
  assignsIn_node (by simp [hw]) hi

theorem AssignsIn.inner {f : Form} {m : Marks} (h : AssignsIn A (.node f m)) :
    ∀ q ∈ f.inner, AssignsIn A q :=
  fun _ hq n hn => h n (.inside hq hn)

theorem assignsIn_leaf (k : Leaf) (v : Piece) (m : Marks) : AssignsIn A (.node (.leaf k v) m) :=
  assignsIn_of_inner rfl (by simp [Form.inner])

theorem assignsIn_function (k : Function) (n : Piece) (ps b : Seq) (m : Marks) :
    AssignsIn A (.node (.function k n ps b) m) :=
  assignsIn_of_inner rfl (by simp [Form.inner])

/-! Marks -/

/-- The piece without its marks. -/
def Piece.bare : Piece → Piece
  | .node f _ => f.piece
  | p => p

theorem Names.congr {n : String} {p q : Piece} (hpq : p.bare = q.bare) (h : Names n p) : Names n q := by
  cases q with
  | node f m =>
    cases h with
    | ident =>
      cases hpq
      exact .ident
    | element hq h =>
      cases hpq
      exact .element hq h
  | _ => cases h <;> cases hpq

theorem Assigns.congr {n : String} {p q : Piece} (hpq : p.bare = q.bare) (h : Assigns n p) :
    Assigns n q := by
  cases q with
  | node f m =>
    cases h with
    | here hq hn =>
      cases hpq
      exact .here hq hn
    | inside hq hn =>
      cases hpq
      exact .inside hq hn
    | member => cases hpq
  | items xs =>
    cases h with
    | member hq hn =>
      cases hpq
      exact .member hq hn
    | _ => cases hpq
  | _ => cases h <;> cases hpq

theorem AssignsIn.congr {p q : Piece} (h : AssignsIn A p) (hpq : q.bare = p.bare) :
    AssignsIn A q :=
  fun n hn => h n (hn.congr hpq)

theorem bare_inParens (p : Piece) : p.inParens.bare = p.bare := by
  cases p <;> rfl

theorem bare_declare {p q : Piece} (h : p.declare = .ok q) : q.bare = p.bare := by
  cases p with
  | node f m =>
    cases h
    rfl
  | _ => cases h

theorem assignsIn_inParens {p : Piece} (h : AssignsIn A p) : AssignsIn A p.inParens :=
  h.congr (bare_inParens p)

/-! Forms -/

theorem assignsIn_absent : AssignsIn A .absent := assignsIn_atom _

theorem mem_ofPiece_block {ps : List Piece} {q : Piece} (h : q ∈ (Seq.ofPiece (Walk.block ps)).pieces) :
    q = Walk.block ps ∨ q ∈ ps := by
  rcases List.mem_cons.1 h with rfl | h
  · exact .inl rfl
  · exact .inr (List.mem_filter.1 h).1

end

end Transpile.Script

namespace Transpile.Walk

open Script Source

section

variable {A : String → Prop} {p q l r : Piece} {ps : List Piece}

theorem assignsIn_text (s : String) : AssignsIn A (text s) := assignsIn_atom _

theorem assignsIn_word (s : String) : AssignsIn A (word s) := assignsIn_leaf _ _ _

theorem assignsIn_statement (h : AssignsIn A p) : AssignsIn A (statement p) :=
  assignsIn_of_inner rfl (List.forall_mem_singleton.2 h)

theorem assignsIn_block (h : ∀ p ∈ ps, AssignsIn A p) : AssignsIn A (block ps) :=
  assignsIn_of_inner rfl h

theorem assignsIn_splice (h : ∀ p ∈ ps, AssignsIn A p) : AssignsIn A (splice ps) :=
  assignsIn_of_inner rfl h

theorem assignsIn_callOf (hf : AssignsIn A p) (h : ∀ p ∈ ps, AssignsIn A p) :
    AssignsIn A (callOf p ps) :=
  assignsIn_of_inner rfl (List.forall_mem_cons.2 ⟨hf, h⟩)

theorem assignsIn_pair {f : Form} {m : Marks} (hw : f.written = []) (hf : f.inner = [l, r])
    (hl : AssignsIn A l) (hr : AssignsIn A r) : AssignsIn A (.node f m) :=
  assignsIn_of_inner hw (by simp [hf, hl, hr])

theorem assignsIn_triple {f : Form} {m : Marks} (hw : f.written = []) (hf : f.inner = [p, l, r])
    (hp : AssignsIn A p) (hl : AssignsIn A l) (hr : AssignsIn A r) : AssignsIn A (.node f m) :=
  assignsIn_of_inner hw (by simp [hf, hp, hl, hr])

theorem assignsIn_dot (h : AssignsIn A p) (n : String) : AssignsIn A (dot p n) :=
  assignsIn_pair rfl rfl h (assignsIn_word n)

theorem assignsIn_binary (op : String) (hl : AssignsIn A l) (hr : AssignsIn A r) :
    AssignsIn A (binary op l r) :=
  assignsIn_triple rfl rfl (assignsIn_text op) hl hr

theorem assignsIn_assignTo (op : String) (hl : TargetIn A l) (hr : AssignsIn A r) :
    AssignsIn A (assignTo op l r) := by
  refine assignsIn_node (fun q hq => ?_) (by simp [Form.inner, Form.pieces, assignsIn_text, hl.assigns, hr])
  rw [Form.written] at hq
  split_ifs at hq
  · cases hq
  · rw [List.mem_singleton.1 hq]
    exact hl.names

theorem assignsIn_powerOf (hl : AssignsIn A l) (hr : AssignsIn A r) : AssignsIn A (powerOf l r) :=
  assignsIn_callOf (assignsIn_dot (assignsIn_word _) _) (by simp [hl, hr])

theorem assignsIn_floorOf (hl : AssignsIn A l) (hr : AssignsIn A r) : AssignsIn A (floorOf l r) :=
  assignsIn_callOf (assignsIn_dot (assignsIn_word _) _)
    (List.forall_mem_singleton.2 (assignsIn_binary _ hl hr))

theorem assignsIn_spliced (h : AssignsIn A p) : ∀ q ∈ spliced p, AssignsIn A q := by
  unfold spliced
  split
  · next s m =>
    intro q hq
    have hq := (List.mem_filter.1 hq).1
    refine h.inner q ?_
    cases s with
    | items xs => exact hq
    | spread host xs => exact List.mem_cons_of_mem _ hq
    | single host => cases hq
  · simp
  · simpa using h

end

/-! Rules that bind nothing -/

section

variable {o : Options} {A : String → Prop}

theorem results_sourceName (key : Piece) :
    Results o (fun p => ∃ v, p = identifier v) (sourceName key) := by
  refine results_bind fun o => results_ite ?_ (results_pure ⟨key, rfl⟩)
  split
  · exact results_pure ⟨_, rfl⟩
  · exact results_throw _

theorem assigns_sourceName (key : Piece) : Results o (AssignsIn A) (sourceName key) := by
  intro s p s' h
  obtain ⟨v, rfl⟩ := results_sourceName key s p s' h
  exact assignsIn_leaf _ _ _

theorem assigns_functionOf (params body : Seq) : Results o (AssignsIn A) (functionOf params body) := by
  intro s p s' h
  obtain ⟨ps, rfl⟩ := results_functionOf params body s p s' h
  exact assignsIn_function _ _ _ _ _

theorem bare_atSite {p q : Piece} {s s' : State} (h : run (atSite p) o s = (.ok q, s')) :
    q.bare = p.bare := by
  unfold atSite at h
  split at h
  · obtain ⟨_, _, hget, h⟩ := run_bind_ok h
    obtain ⟨_, _, hmodify, h⟩ := run_bind_ok h
    cases h
    rfl
  · cases h
    rfl

theorem bare_bindAs {key p q : Piece} {s s' : State} (h : run (bindAs key p) o s = (.ok q, s')) :
    q.bare = p.bare := by
  obtain ⟨seen, s1, -, h⟩ := run_bind_ok h
  split_ifs at h
  · cases h
    rfl
  · obtain ⟨r, s2, hsite, h⟩ := run_bind_ok h
    obtain ⟨_, s3, -, h⟩ := run_bind_ok h
    cases h
    exact bare_atSite hsite

theorem bare_bind {p q : Piece} {s s' : State} (h : run (Walk.bind p) o s = (.ok q, s')) :
    q.bare = p.bare := by
  obtain ⟨v, s1, -, h⟩ := run_bind_ok h
  exact bare_bindAs h

theorem unaryText_ne (op : Option Op) : keyOf (text (unaryText op)) ∉ [some "++", some "--"] := by
  unfold unaryText
  split <;> decide

theorem assigns_grouped {op l r : Piece} (hop : AssignsIn A op) (hl : AssignsIn A l)
    (hr : AssignsIn A r) : Results o (AssignsIn A) (grouped (Form.binary op l r).piece) := by
  have hbinary : AssignsIn A (Form.binary op l r).piece := assignsIn_triple rfl rfl hop hl hr
  exact results_bind fun _ =>
    results_ite (results_pure (assignsIn_inParens hbinary)) (results_pure hbinary)

theorem assigns_operatorRule (op : Op) : Results o (AssignsIn A) (operatorRule op) := by
  unfold operatorRule
  split <;> exact results_pure (assignsIn_atom _)

theorem assigns_numberRule (n : Tree) : Results o (AssignsIn A) (numberRule n) := by
  refine results_bind fun v => ?_
  split
  · exact results_throw _
  · exact results_pure (assignsIn_leaf _ _ _)

theorem assigns_nameRule (id : Tree) : Results o (AssignsIn A) (nameRule id) := by
  refine results_bind fun v => ?_
  split
  · exact results_pure (assignsIn_leaf _ _ _)
  · exact results_pure (assignsIn_leaf _ _ _)
  · exact results_pure (assignsIn_leaf _ _ _)
  · exact assigns_sourceName _

/-- A comprehension is the call of a function. -/
theorem assigns_comprehensionRule (generators : Branch) :
    Results o (AssignsIn A) (comprehensionRule generators) := by
  refine results_bind fun n => results_guard ?_
  split
  · refine results_bind fun _ => results_bind fun _ => results_bind fun _ => ?_
    refine results_bind fun i => results_bind fun n => results_bind fun v => results_bind fun r => ?_
    have rest (all : Piece) : Results o (AssignsIn A) (do
        let f ← functionOf (.items []) (Seq.ofPiece all)
        return callOf f.inParens []) :=
      results_bind_of (assigns_functionOf _ _) fun f hf =>
        results_pure (assignsIn_callOf (assignsIn_inParens hf) (by simp))
    exact results_bind fun vars => results_bind fun p => results_ite
      (results_bind fun _ => rest _) (rest _)
  · exact results_throw _

theorem assigns_aliasRule (name asName : Tree) (place : List Tree) :
    Results o (AssignsIn A) (aliasRule name asName place) := by
  unfold aliasRule
  split <;> exact results_pure (assignsIn_record _)

variable {cs : List Piece} (hcs : ∀ c ∈ cs, AssignsIn A c)
include hcs

theorem assigns_child (i : Nat) : Results o (AssignsIn A) (child cs i) := results_child hcs i

theorem assigns_unaryRule (op : Tree) : Results o (AssignsIn A) (unaryRule op cs) := by
  refine results_bind fun b => results_bind_of (assigns_child hcs 0) fun x hx => results_pure ?_
  refine assignsIn_triple ?_ rfl (assignsIn_text _) hx (assignsIn_atom _)
  rw [Form.written, if_neg (unaryText_ne b)]

theorem assigns_binaryRule (op : Tree) : Results o (AssignsIn A) (binaryRule op cs) := by
  refine results_bind fun b => ?_
  have two {f : Piece → Piece → Piece}
      (hf : ∀ l r, AssignsIn A l → AssignsIn A r → AssignsIn A (f l r)) :
      Results o (AssignsIn A) (do return f (← child cs 0) (← child cs 1)) :=
    results_bind_of (assigns_child hcs 0) fun l hl => results_bind_of (assigns_child hcs 1) fun r hr =>
      results_pure (hf l r hl hr)
  split
  · exact two fun _ _ => assignsIn_powerOf
  · exact two fun _ _ => assignsIn_floorOf
  · split
    · exact two fun _ _ => assignsIn_binary _
    · exact results_bind_of (assigns_child hcs 1) fun _ hop => results_bind_of (assigns_child hcs 0)
        fun _ hl => results_bind_of (assigns_child hcs 2) fun _ hr => assigns_grouped hop hl hr

theorem assigns_boolRule : Results o (AssignsIn A) (boolRule cs) :=
  results_bind_of (assigns_child hcs 0) fun _ hop => results_bind_of (assigns_child hcs 1) fun _ hl =>
    results_bind_of (assigns_child hcs 2) fun _ hr => assigns_grouped hop hl hr

theorem assigns_compareRule : Results o (AssignsIn A) (compareRule cs) :=
  results_bind_of (assigns_child hcs 1) fun _ hop => results_bind_of (assigns_child hcs 0) fun _ hl =>
    results_bind_of (assigns_child hcs 2) fun _ hr =>
      results_pure (assignsIn_triple rfl rfl hop hl hr)

theorem assigns_callRule (func : Tree) : Results o (AssignsIn A) (callRule func cs) := by
  refine results_bind fun t => ?_
  have hargs : ∀ c ∈ cs.drop 1, AssignsIn A c := fun c hc => hcs c (List.mem_of_mem_drop hc)
  split
  · exact results_bind_of (assigns_child hcs 0) fun f hf => results_pure (assignsIn_callOf hf hargs)
  · exact results_bind_of (assigns_child hcs 0) fun f hf => results_pure
      (assignsIn_callOf hf fun c hc => hargs c (List.mem_filter.1 hc).1)

theorem assigns_attributeRule (name : Tree) : Results o (AssignsIn A) (attributeRule name cs) :=
  results_bind_of (assigns_child hcs 0) fun _ hx => results_bind fun _ =>
    results_bind_of (assigns_sourceName _) fun _ hn => results_pure (assignsIn_pair rfl rfl hx hn)

theorem assigns_dictRule : Results o (AssignsIn A) (dictRule cs) := by
  have each (e : Piece × Piece) : Results o (fun p => AssignsIn A e.2 → AssignsIn A p) (do
      return assignTo ":" (← sourceName (← need e.1.value)) e.2) :=
    results_bind fun _ => results_bind_of (assigns_sourceName _) fun _ hn => results_pure fun he =>
      assignsIn_triple rfl rfl (assignsIn_text _) hn he
  refine results_bind_of (results_mapM each _) fun ps hps => results_pure ?_
  refine assignsIn_of_inner rfl fun p hp => ?_
  obtain ⟨e, he, h⟩ := forall₂_right hps hp
  exact h (hcs e.2 (List.mem_of_mem_drop (List.of_mem_zip he).2))

theorem assigns_deleteRule : Results o (AssignsIn A) (deleteRule cs) := by
  have each (c : Piece) : Results o (fun p => AssignsIn A c → AssignsIn A p) (do
      let c ← Walk.bind c
      return statement (Form.unary (text "delete") c (.atom (.flag false))).piece) := by
    intro s p s' h hc
    obtain ⟨c', s1, hbind, h⟩ := run_bind_ok h
    cases h
    exact assignsIn_statement
      (assignsIn_triple rfl rfl (assignsIn_text _) (hc.congr (bare_bind hbind)) (assignsIn_atom _))
  refine results_bind_of (results_mapM each cs) fun ps hps => results_pure ?_
  refine assignsIn_splice fun p hp => ?_
  obtain ⟨c, hc, h⟩ := forall₂_right hps hp
  exact h (hcs c hc)

theorem assigns_ifRule (body orelse : Tree) : Results o (AssignsIn A) (ifRule body orelse cs) := by
  refine results_bind_of (assigns_child hcs 0) fun test htest => results_bind fun n => ?_
  have hyes : AssignsIn A (block ((cs.drop 1).take n)) :=
    assignsIn_block fun c hc => hcs c (List.mem_of_mem_drop (List.mem_of_mem_take hc))
  have hrest : ∀ c ∈ cs.drop (n + 1), AssignsIn A c := fun c hc => hcs c (List.mem_of_mem_drop hc)
  have last {no : Piece} (hno : AssignsIn A no) :
      AssignsIn A (Form.ifThen test (block ((cs.drop 1).take n)) no).piece :=
    assignsIn_triple rfl rfl htest hyes hno
  refine results_bind fun m => results_ite (results_pure (last assignsIn_absent)) ?_
  refine results_ite (results_bind_of (assigns_child hrest 0) fun first hfirst => results_pure ?_)
    (results_pure (last (assignsIn_block hrest)))
  refine last ?_
  split_ifs
  · exact hfirst
  · exact assignsIn_block hrest

theorem assigns_tryRule (final : Tree) : Results o (AssignsIn A) (tryRule final cs) := by
  refine results_bind fun n => ?_
  generalize he : (if n = 0 then ([], cs) else (lastOf n cs, butLast n cs)) = e
  have hlast : ∀ c ∈ e.1, AssignsIn A c := by
    rw [← he]
    split_ifs
    · simp
    · exact fun c hc => hcs c (List.mem_of_mem_drop hc)
  have hrest : ∀ c ∈ e.2, AssignsIn A c := by
    rw [← he]
    split_ifs
    · exact hcs
    · exact fun c hc => hcs c (List.mem_of_mem_take hc)
  refine results_pure (assignsIn_triple rfl rfl ?_ ?_ ?_)
  · exact assignsIn_block fun c hc => hrest c (List.mem_filter.1 hc).1
  · cases hf : e.2.find? isCatch with
    | none => exact assignsIn_absent
    | some c => exact hrest c (List.mem_of_find?_eq_some hf)
  · split_ifs
    · exact assignsIn_absent
    · refine assignsIn_of_inner rfl fun q hq => ?_
      rcases mem_ofPiece_block hq with rfl | hq
      · exact assignsIn_block hlast
      · exact hlast q hq

theorem assigns_handlerRule (name : Tree) : Results o (AssignsIn A) (handlerRule name cs) := by
  intro s p s' h
  obtain ⟨id, rfl⟩ := catch_handlerRule name cs s p s' h
  have hbody : ∀ c ∈ cs.filter isStatement, AssignsIn A c := fun c hc => hcs c (List.mem_filter.1 hc).1
  refine assignsIn_of_inner rfl fun q hq => ?_
  rcases mem_ofPiece_block hq with rfl | hq
  · exact assignsIn_block hbody
  · exact hbody q hq

end

/-- The classes whose rules make assignments. -/
def isAssigning : Kind → Bool
  | .assign | .augAssign | .forStmt | .whileStmt | .functionDef | .classDef | .module => true
  | _ => false

theorem assigns_fieldRule {o : Options} {A : String → Prop} {k : Kind} (hk : isAssigning k = false)
    (fs : List Tree) {cs : List Piece} (hcs : ∀ c ∈ cs, AssignsIn A c) :
    Results o (AssignsIn A) (fieldRule k fs cs) := by
  unfold fieldRule
  split
  · exact assigns_operatorRule _
  · exact assigns_unaryRule hcs _
  · exact assigns_binaryRule hcs _
  · exact assigns_boolRule hcs
  · exact assigns_compareRule hcs
  · exact assigns_numberRule _
  · exact results_bind fun _ => results_pure (assignsIn_leaf _ _ _)
  · exact assigns_nameRule _
  · exact assigns_callRule hcs _
  · exact assigns_attributeRule hcs _
  · exact assigns_child hcs 0
  · exact results_pure (assignsIn_of_inner rfl hcs)
  · exact results_pure (assignsIn_of_inner rfl hcs)
  · exact assigns_dictRule hcs
  · exact results_bind fun _ => assigns_functionOf _ _
  · exact results_pure (assignsIn_items hcs)
  · exact results_bind fun _ => assigns_sourceName _
  · exact results_bind_of (assigns_child hcs 0) fun _ hp => results_pure (assignsIn_statement hp)
  · refine results_pure (assignsIn_of_inner rfl (List.forall_mem_singleton.2 ?_))
    cases cs with
    | nil => exact assignsIn_absent
    | cons c cs => exact hcs c (by simp)
  · exact results_bind_of (assigns_child hcs 0) fun _ hp =>
      results_pure (assignsIn_of_inner rfl (List.forall_mem_singleton.2 hp))
  · exact assigns_deleteRule hcs
  · cases hk
  · cases hk
  · exact results_pure (assignsIn_of_inner rfl (List.forall_mem_singleton.2 assignsIn_absent))
  · exact results_pure (assignsIn_of_inner rfl (List.forall_mem_singleton.2 assignsIn_absent))
  · exact assigns_ifRule hcs _ _
  · cases hk
  · cases hk
  · exact assigns_tryRule hcs _
  · exact assigns_handlerRule hcs _
  · exact results_bind fun _ => results_pure assignsIn_absent
  · exact assigns_aliasRule _ _ _
  · cases hk
  · cases hk
  · cases hk
  · cases hk
  · exact results_pure assignsIn_absent

end Transpile.Walk
