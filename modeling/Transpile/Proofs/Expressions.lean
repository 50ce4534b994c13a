import Transpile.Proofs.Success
import Mathlib.Data.List.Forall2

/-! What the walk makes of names, numbers, operators, calls, subscripts and dictionaries whose parts give
one form each. -/

namespace Transpile.Walk

open Script Source

/-- A form that does not join the list it is put into. -/
def IsForm (p : Piece) : Prop := ∃ f m, p = .node f m ∧ ∀ s, f ≠ .group .splice s

theorem IsForm.spliced {p : Piece} (h : IsForm p) : spliced p = [p] := by
  obtain ⟨f, m, rfl, hf⟩ := h
  unfold Walk.spliced
  split
  · next heq =>
    cases heq
    exact absurd rfl (hf _)
  · next heq => cases heq
  · rfl

theorem IsForm.isTruthy {p : Piece} (h : IsForm p) : p.isTruthy = true := by
  obtain ⟨f, m, rfl, -⟩ := h
  rfl

theorem isForm_piece {f : Form} (hf : ∀ s, f ≠ .group .splice s) : IsForm f.piece :=
  ⟨f, {}, rfl, hf⟩

theorem IsForm.inParens {p : Piece} (h : IsForm p) : IsForm p.inParens := by
  obtain ⟨f, m, rfl, hf⟩ := h
  exact ⟨f, _, rfl, hf⟩

/-- An operator before its operand. -/
def unaryPiece (op : Op) (x : Piece) : Piece :=
  (Form.unary (text (unaryText (some op))) x (.atom (.flag false))).piece

/-- The operators between two operands. -/
def binaryOps : List Op :=
  [.add, .sub, .mult, .div, .mod, .pow, .floorDiv, .lShift, .rShift, .bitOr, .bitXor, .bitAnd]

/-- An operator between its operands; inside another operator some are put in parentheses. -/
def binaryPiece (op : Op) (inner : Bool) (x y : Piece) : Piece :=
  match op with
  | .pow => powerOf x y
  | .floorDiv => floorOf x y
  | op => match bitText op with
    | some s => binary s x y
    | none => wrapped inner (binary ((operatorText op).getD "") x y)

/-- A property of a dictionary: what the key carries is taken for a name. -/
def propertyOf (o : Options) (k v : Piece) : Piece :=
  assignTo ":" (word (nameIn o ((nameOf? k).getD ""))) v

theorem forall₂_right {α β : Type} {R : α → β → Prop} {as : List α} {bs : List β}
    (h : List.Forall₂ R as bs) {b : β} (hb : b ∈ bs) : ∃ a ∈ as, R a b := by
  induction h with
  | nil => cases hb
  | cons hab _ ih =>
    rcases List.mem_cons.1 hb with rfl | hb
    · exact ⟨_, by simp, hab⟩
    · obtain ⟨a, ha, hr⟩ := ih hb
      exact ⟨a, by simp [ha], hr⟩

theorem eq_map_of_forall₂ {α β : Type} {f : α → β} {as : List α} {bs : List β}
    (h : List.Forall₂ (fun a b => b = f a) as bs) : bs = as.map f := by
  induction h with
  | nil => rfl
  | cons hab _ ih => rw [List.map_cons, ← hab, ← ih]

section

variable {o : Options} {I : State → Prop} {ops : Stack Kind} (hI : Stable I)
include hI

theorem gives_name {n : String} (hn : n ∉ ["None", "True", "False"]) {ctx : Tree} (hc : IsUse ctx) :
    Gives o I ops (visit (.node .name [.text n, ctx])) (· = word (nameIn o n)) := by
  refine gives_node hI rfl rfl (gives_fields (yields_atom _) (gives_fields (yields_use hI hc)
    gives_no_fields)) fun cs _ => ?_
  change Gives o I ops (nameRule (.text n)) _
  unfold nameRule
  refine gives_bind_eq (gives_atomField _) ?_
  simp only [List.mem_cons, List.not_mem_nil, or_false, not_or] at hn
  split
  · next h => exact absurd (by simpa using h) hn.1
  · next h => exact absurd (by simpa using h) hn.2.1
  · next h => exact absurd (by simpa using h) hn.2.2
  · exact gives_sourceName n

theorem gives_number {a : Atom} (ha : a ≠ .vast) :
    Gives o I ops (visit (.node .num [.atom a])) (· = leaf .number a.shown) := by
  refine gives_node hI rfl rfl (gives_fields (yields_atom _) gives_no_fields) fun cs _ => ?_
  change Gives o I ops (numberRule (.atom a)) _
  unfold numberRule
  refine gives_bind_eq (gives_atomField a) ?_
  split
  · next h => exact absurd (by simpa using h) ha
  · exact gives_pure rfl

theorem gives_unary {op : Op} (hop : operatorText op = none) {x : Tree} (hx : x.isNode = true)
    {P : Piece → Prop} (hP : ∀ p, P p → IsForm p) (h : Gives o I ops (visit x) P) :
    Gives o I ops (visit (.node .unaryOp [.node (.op op) [], x])) fun p =>
      ∃ y, P y ∧ p = unaryPiece op y := by
  refine gives_node hI rfl rfl (gives_fields (yields_operator hI op) (gives_fields
    (yields_one hx (fun p hp => (hP p hp).spliced) h) gives_no_fields)) ?_
  rintro _ ⟨_, _, rfl, rfl, _, _, rfl, ⟨y, hy, rfl⟩, rfl⟩
  rw [hop]
  exact gives_bind_eq (gives_operatorOf op []) (gives_bind_eq (gives_child rfl) (gives_pure ⟨y, hy, rfl⟩))

theorem gives_binary {op : Op} (hop : op ∈ binaryOps) {l r : Tree} (hl : l.isNode = true)
    (hr : r.isNode = true) {P Q : Piece → Prop} (hP : ∀ p, P p → IsForm p)
    (hQ : ∀ p, Q p → IsForm p) (h1 : Gives o I (ops.push .binOp) (visit l) P)
    (h2 : Gives o I (ops.push .binOp) (visit r) Q) :
    Gives o I ops (visit (.node .binOp [l, .node (.op op) [], r])) fun p =>
      ∃ x y, P x ∧ Q y ∧ p = binaryPiece op (!ops.isEmpty) x y := by
  refine gives_node hI rfl rfl (gives_fields (yields_one hl (fun p hp => (hP p hp).spliced) h1)
    (gives_fields (yields_operator hI op) (gives_fields
    (yields_one hr (fun p hp => (hQ p hp).spliced) h2) gives_no_fields))) ?_
  rintro _ ⟨_, _, rfl, ⟨x, hx, rfl⟩, _, _, rfl, rfl, _, _, rfl, ⟨y, hy, rfl⟩, rfl⟩
  change Gives o I ops (binaryRule (.node (.op op) []) _) _
  unfold binaryRule
  refine gives_bind_eq (gives_operatorOf op []) ?_
  have done : ∃ x' y', P x' ∧ Q y' ∧ binaryPiece op (!ops.isEmpty) x y =
      binaryPiece op (!ops.isEmpty) x' y' := ⟨x, y, hx, hy, rfl⟩
  have hgroup (p : Piece) (hp : wrapped (!ops.isEmpty) p = binaryPiece op (!ops.isEmpty) x y) :
      Gives o I ops (grouped p) fun p => ∃ x y, P x ∧ Q y ∧ p = binaryPiece op (!ops.isEmpty) x y :=
    Gives.mono (gives_grouped p) fun _ h => by rw [h, hp]; exact done
  simp only [binaryOps, List.mem_cons, List.not_mem_nil, or_false] at hop
  rcases hop with rfl | rfl | rfl | rfl | rfl | rfl | rfl | rfl | rfl | rfl | rfl | rfl
  all_goals first
    | exact gives_bind_eq (gives_child rfl) (gives_bind_eq (gives_child rfl) (gives_pure done))
    | exact gives_bind_eq (gives_child rfl) (gives_bind_eq (gives_child rfl)
        (gives_bind_eq (gives_child rfl) (hgroup _ rfl)))

theorem gives_bool {α : Type} {op : Op} {s : String} (hop : operatorText op = some s)
    {f : α → Tree} {vs : List α} (hvs : 2 ≤ vs.length) {Q : α → Piece → Prop}
    (hQ : ∀ v p, Q v p → IsForm p)
    (h : ∀ v ∈ vs, (f v).isNode = true ∧ Gives o I (ops.push .boolOp) (visit (f v)) (Q v)) :
    Gives o I ops (visit (.node .boolOp [.node (.op op) [], .list (vs.map f)])) fun p =>
      ∃ x y zs, List.Forall₂ Q vs (x :: y :: zs) ∧ p = wrapped (!ops.isEmpty) (binary s x y) := by
  refine gives_node hI rfl rfl (gives_fields (yields_operator hI op) (gives_fields
    (yields_each (fun v p hp => (hQ v p hp).spliced) h) gives_no_fields)) ?_
  rintro _ ⟨_, _, rfl, rfl, ps, _, rfl, hps, rfl⟩
  rw [hop]
  match ps, hps.length_eq with
  | [], hlen => rw [hlen] at hvs; cases hvs
  | [x], hlen => rw [hlen] at hvs; simp at hvs
  | x :: y :: zs, _ =>
    refine gives_bind_eq (gives_child rfl) (gives_bind_eq (gives_child rfl)
      (gives_bind_eq (gives_child rfl) (Gives.mono (gives_grouped _) ?_)))
    exact fun _ hp => ⟨x, y, zs, hps, hp⟩

theorem gives_compare {op : Op} {s : String} (hop : operatorText op = some s) {l r : Tree}
    (hl : l.isNode = true) (hr : r.isNode = true) {P Q : Piece → Prop} (hP : ∀ p, P p → IsForm p)
    (hQ : ∀ p, Q p → IsForm p) (h1 : Gives o I ops (visit l) P) (h2 : Gives o I ops (visit r) Q) :
    Gives o I ops (visit (.node .compare [l, .list [.node (.op op) []], .list [r]])) fun p =>
      ∃ x y, P x ∧ Q y ∧ p = binary s x y := by
  have hops : Yields o I ops (.list [.node (.op op) []]) (· = [text s]) := by
    have h : Yields o I ops (.node (.op op) []) _ := yields_operator hI op
    rw [hop] at h
    exact gives_bind_eq h (gives_bind_eq (gives_pure rfl) (gives_pure rfl))
  have hright : Yields o I ops (.list [r]) fun cs => ∃ q, Q q ∧ cs = [q] := by
    refine Gives.mono (yields_single hr h2) ?_
    rintro _ ⟨q, hq, rfl⟩
    exact ⟨q, hq, (hQ q hq).spliced⟩
  refine gives_node hI rfl rfl (gives_fields (yields_one hl (fun p hp => (hP p hp).spliced) h1)
    (gives_fields hops (gives_fields hright gives_no_fields))) ?_
  rintro _ ⟨_, _, rfl, ⟨x, hx, rfl⟩, _, _, rfl, rfl, _, _, rfl, ⟨y, hy, rfl⟩, rfl⟩
  exact gives_bind_eq (gives_child rfl) (gives_bind_eq (gives_child rfl)
    (gives_bind_eq (gives_child rfl) (gives_pure ⟨x, y, hx, hy, rfl⟩)))

theorem gives_call {α : Type} {f : Tree} (hf : f.isNode = true) {g : α → Tree} {args : List α}
    {P : Piece → Prop} {Q : α → Piece → Prop} (hP : ∀ p, P p → IsForm p)
    (hQ : ∀ a p, Q a p → IsForm p) (h : Gives o I ops (visit f) P)
    (hargs : ∀ a ∈ args, (g a).isNode = true ∧ Gives o I ops (visit (g a)) (Q a)) :
    Gives o I ops (visit (.node .call [f, .list (args.map g), .list []])) fun p =>
      ∃ x ys, P x ∧ List.Forall₂ Q args ys ∧ p = callOf x ys := by
  have hkeywords : Yields o I ops (.list []) (· = []) := gives_pure rfl
  refine gives_node hI rfl rfl (gives_fields (yields_one hf (fun p hp => (hP p hp).spliced) h)
    (gives_fields (yields_each (fun t p hp => (hQ t p hp).spliced) hargs)
    (gives_fields hkeywords gives_no_fields))) ?_
  rintro _ ⟨_, _, rfl, ⟨x, hx, rfl⟩, ys, _, rfl, hys, _, _, rfl, rfl, rfl⟩
  have htruthy : ys.filter Piece.isTruthy = ys := by
    refine List.filter_eq_self.2 fun y hy => ?_
    obtain ⟨t, -, ht⟩ := forall₂_right hys hy
    exact (hQ t y ht).isTruthy
  have hgiven : f ≠ .missing := by rintro rfl; cases hf
  refine gives_bind_eq (gives_given hgiven) ?_
  simp only [List.append_nil, List.singleton_append, List.drop_one, List.tail_cons]
  split
  · exact gives_bind_eq (gives_child rfl) (gives_pure ⟨x, ys, hx, hys, rfl⟩)
  · rw [htruthy]
    exact gives_bind_eq (gives_child rfl) (gives_pure ⟨x, ys, hx, hys, rfl⟩)

theorem gives_subscript {x i ctx : Tree} (hx : x.isNode = true) (hi : i.isNode = true)
    (hc : IsUse ctx) {P Q : Piece → Prop} (hP : ∀ p, P p → IsForm p) (hQ : ∀ p, Q p → IsForm p)
    (h1 : Gives o I ops (visit x) P) (h2 : Gives o I ops (visit i) Q) :
    Gives o I ops (visit (.node .subscript [x, .node .index [i], ctx])) fun p =>
      ∃ y z, P y ∧ Q z ∧ p = (Form.bracket y z).piece := by
  have hindex : Gives o I ops (visit (.node .index [i])) Q := by
    refine gives_node hI rfl rfl (gives_fields (yields_one hi (fun p hp => (hQ p hp).spliced) h2)
      gives_no_fields) ?_
    rintro _ ⟨_, _, rfl, ⟨z, hz, rfl⟩, rfl⟩
    change Gives o I ops (child [z] 0) _
    exact Gives.mono (gives_child rfl) fun _ h => h ▸ hz
  refine gives_visit hI rfl rfl (gives_fields (yields_one hx (fun p hp => (hP p hp).spliced) h1)
    (gives_fields (yields_one rfl (fun p hp => (hQ p hp).spliced) hindex)
    (gives_fields (yields_use hI hc) gives_no_fields))) ?_
  rintro _ ⟨_, _, rfl, ⟨y, hy, rfl⟩, _, _, rfl, ⟨z, hz, rfl⟩, _, _, rfl, rfl, rfl⟩
  have hgiven : Gives o I ops (given (.node .index [i])) (· = .node .index [i]) :=
    gives_given (by simp)
  refine gives_bind_eq (gives_child rfl) (gives_bind_eq hgiven ?_)
  exact gives_bind_eq (gives_child rfl) (gives_pure ⟨y, z, hy, hz, rfl⟩)

omit hI in
theorem gives_mapM_eq {α β : Type} {f : α → Walker β} {g : α → β} {as : List α}
    (h : ∀ a ∈ as, Gives o I ops (f a) (· = g a)) : Gives o I ops (as.mapM f) (· = as.map g) := by
  induction as with
  | nil => exact gives_pure rfl
  | cons a as ih =>
    rw [List.mapM_cons]
    refine gives_bind_eq (h a (by simp)) (gives_bind_eq (ih fun b hb => h b (by simp [hb])) ?_)
    exact gives_pure rfl

/-- Keys and values are told apart by their number. -/
theorem gives_dictionary {α : Type} {f g : α → Tree} {es : List α} {P Q : α → Piece → Prop}
    (hP : ∀ e p, P e p → IsForm p ∧ ∃ s, p.value = .ok (.text s)) (hQ : ∀ e p, Q e p → IsForm p)
    (hkeys : ∀ e ∈ es, (f e).isNode = true ∧ Gives o I ops (visit (f e)) (P e))
    (hvalues : ∀ e ∈ es, (g e).isNode = true ∧ Gives o I ops (visit (g e)) (Q e)) :
    Gives o I ops (visit (.node .dict [.list (es.map f), .list (es.map g)])) fun p =>
      ∃ xs ys, List.Forall₂ P es xs ∧ List.Forall₂ Q es ys ∧
        p = (Form.object (.items ((xs.zip ys).map fun e => propertyOf o e.1 e.2))).piece := by
  refine gives_node hI rfl rfl (gives_fields (yields_each (fun e p hp => (hP e p hp).1.spliced) hkeys)
    (gives_fields (yields_each (fun e p hp => (hQ e p hp).spliced) hvalues) gives_no_fields)) ?_
  rintro _ ⟨xs, _, rfl, hxs, ys, _, rfl, hys, rfl⟩
  rw [List.append_nil]
  change Gives o I ops (dictRule (xs ++ ys)) _
  have hhalf : (xs ++ ys).length / 2 = xs.length := by
    have hlength := hxs.length_eq.symm.trans hys.length_eq
    rw [List.length_append]
    omega
  simp only [dictRule, hhalf, List.take_left, List.drop_left]
  have hentry : ∀ e ∈ xs.zip ys, Gives o I ops (do
      return assignTo ":" (← sourceName (← need e.1.value)) e.2) (· = propertyOf o e.1 e.2) := by
    intro e he
    obtain ⟨a, -, ha⟩ := forall₂_right hxs (List.of_mem_zip he).1
    obtain ⟨-, s, hs⟩ := hP a e.1 ha
    rw [propertyOf, nameOf?_of_value hs, hs]
    exact gives_bind_eq gives_need (gives_bind_eq (gives_sourceName s) (gives_pure rfl))
  exact gives_bind_eq (gives_mapM_eq hentry) (gives_pure ⟨xs, ys, hxs, hys, rfl⟩)

theorem gives_exprStmt {x : Tree} (hx : x.isNode = true) {P : Piece → Prop}
    (hP : ∀ p, P p → IsForm p) (h : Gives o I ops (visit x) P) :
    Gives o I ops (visit (.node .exprStmt [x])) fun p => ∃ y, P y ∧ p = statement y := by
  refine gives_node hI rfl rfl (gives_fields (yields_one hx (fun p hp => (hP p hp).spliced) h)
    gives_no_fields) ?_
  rintro _ ⟨_, _, rfl, ⟨y, hy, rfl⟩, rfl⟩
  exact gives_bind_eq (gives_child rfl) (gives_pure ⟨y, hy, rfl⟩)

end

end Transpile.Walk
