import Transpile.Proofs.Printing

/-! Pieces that can be rendered. A piece is printable if it is rendered as some text at every level;
each form is printable if its parts are. -/

namespace Transpile.Script

open Render

section

variable {α β : Type}

/-- At every level the rendering gives something as described and ends at the level. -/
def Renders (w : Render α) (P : α → Prop) : Prop := ∀ unit level, ∃ a, Shows unit level w a ∧ P a

theorem renders_pure {a : α} {P : α → Prop} (h : P a) : Renders (pure a) P :=
  fun _ _ => ⟨a, shows_pure a, h⟩

theorem renders_bind {w : Render α} {f : α → Render β} {P : α → Prop} {Q : β → Prop}
    (hw : Renders w P) (hf : ∀ a, P a → Renders (f a) Q) : Renders (w >>= f) Q := by
  intro unit level
  obtain ⟨a, ha, hP⟩ := hw unit level
  obtain ⟨b, hb, hQ⟩ := hf a hP unit level
  exact ⟨b, shows_bind ha hb, hQ⟩

theorem renders_margin : Renders margin fun _ => True := fun _ _ => ⟨_, rfl, trivial⟩

theorem renders_mapM {f : α → Render β} {as : List α} {Q : β → Prop}
    (h : ∀ a ∈ as, Renders (f a) Q) : Renders (as.mapM f) fun bs => ∀ b ∈ bs, Q b := by
  induction as with
  | nil => exact renders_pure (by simp)
  | cons a as ih =>
    rw [List.mapM_cons]
    refine renders_bind (h a (by simp)) fun b hb => ?_
    refine renders_bind (ih fun c hc => h c (by simp [hc])) fun bs hbs => ?_
    exact renders_pure (by simpa using ⟨hb, hbs⟩)

def IsText (p : Piece) : Prop := ∃ s, p = .text s

theorem renders_say (s : String) : Renders (say s) IsText := renders_pure ⟨s, rfl⟩

theorem renders_textOf {p : Piece} (h : IsText p) : Renders (textOf p) fun _ => True := by
  obtain ⟨s, rfl⟩ := h
  exact renders_pure trivial

theorem renders_ite {c : Prop} [Decidable c] {v w : Render α} {P : α → Prop} (hv : Renders v P)
    (hw : Renders w P) : Renders (if c then v else w) P := by
  split_ifs <;> assumption

/-! Items -/

theorem renders_list {xs : List Item} (h : ∀ x ∈ xs, Renders x.run IsText) (sep : String) :
    Renders (list sep xs) fun _ => True := by
  refine renders_bind (renders_mapM h) fun ps hps => ?_
  refine renders_bind (renders_mapM fun p hp => renders_textOf (hps p hp)) fun ss _ => ?_
  exact renders_pure trivial

theorem renders_lines {xs : List Item} (h : ∀ x ∈ xs, Renders x.run IsText) (sep : String) :
    Renders (lines sep xs) fun _ => True := by
  refine renders_bind (P := fun _ => True) ?_ fun ss _ => renders_pure trivial
  have hline : ∀ x ∈ xs, Renders (do let m ← margin; return m ++ (← textOf (← x.run)))
      fun _ => True := by
    intro x hx
    refine renders_bind renders_margin fun m _ => renders_bind (h x hx) fun p hp => ?_
    exact renders_bind (renders_textOf hp) fun s _ => renders_pure trivial
  intro unit level
  obtain ⟨ss, hss, -⟩ := renders_mapM hline unit level
  exact ⟨ss, hss, trivial⟩

/-- The lines are made two levels deeper, and the level is put back. -/
theorem renders_indented {w : Render (List Item)}
    (h : Renders w fun xs => ∀ x ∈ xs, Renders x.run IsText) (sep : String) :
    Renders (indented sep w) fun _ => True := by
  intro unit level
  have hbody : Renders (do lines sep (← w)) fun _ => True :=
    renders_bind h fun xs hxs => renders_lines hxs sep
  obtain ⟨s, hs, -⟩ := hbody unit (level + 2)
  refine ⟨s, ?_, trivial⟩
  have heq : indented sep w = (do deeper; let s ← (do lines sep (← w)); shallower; return s) := by
    simp only [indented, bind_assoc]
  have hrun : indented sep w unit level =
      ExceptT.bindCont (fun s => (do shallower; return s : Render String) unit)
        ((do lines sep (← w) : Render String) unit (level + 2)).1
        ((do lines sep (← w) : Render String) unit (level + 2)).2 := by
    rw [heq]
    rfl
  unfold Shows at *
  rw [hrun, hs]
  rfl

theorem renders_cells {xs : List Item} (h : ∀ x ∈ xs, Renders x.run IsText) :
    Renders (cells xs) fun _ => True := by
  induction xs with
  | nil => exact renders_pure trivial
  | cons x xs ih =>
    have hrest : ∀ s, Renders (do let t ← cells xs; return s ++ t) fun _ => True := fun s =>
      renders_bind (ih fun y hy => h y (by simp [hy])) fun t _ => renders_pure trivial
    unfold cells
    split
    · exact hrest ","
    · refine renders_bind (h x (by simp)) fun p hp => renders_bind (renders_textOf hp) fun s _ => ?_
      exact hrest _

theorem renders_braces (body : String) : Renders (braces body) fun _ => True :=
  renders_bind renders_margin fun _ _ => renders_pure trivial

end

/-! Forms -/

def Printable (p : Piece) : Prop := Renders p.render IsText

/-- The sequence can be read, and its parts are printable. -/
def Seq.Printable (s : Seq) : Prop := ∃ ps, s.parts? = some ps ∧ ∀ p ∈ ps, Script.Printable p

theorem items_printable {ps : List Piece} (h : ∀ p ∈ ps, Printable p) : (Seq.items ps).Printable :=
  ⟨ps, rfl, h⟩

/-- A form in the place of a list stands for its parts. -/
theorem ofPiece_printable {f : Form} {ps : List Piece} (hf : f.parts? = some ps)
    (h : ∀ p ∈ ps, Printable p) (m : Marks) : (Seq.ofPiece (.node f m)).Printable := by
  have hparts : (Piece.node f m).parts? = some (ps.filter fun p => !p.isAbsent) := by
    rw [Piece.parts?, hf]
    rfl
  refine ⟨ps.filter fun p => !p.isAbsent, ?_, fun p hp => h p (List.mem_filter.1 hp).1⟩
  rw [Seq.ofPiece, hparts]
  · rfl
  · exact nofun

theorem renders_actionsOf {ps : List Piece} (h : ∀ p ∈ ps, Printable p) :
    ∀ x ∈ actionsOf ps, Renders x.run IsText := by
  induction ps with
  | nil => exact fun x hx => by cases hx
  | cons p ps ih =>
    intro x hx
    rcases List.mem_cons.1 hx with rfl | hx
    · exact h p (by simp)
    · exact ih (fun q hq => h q (by simp [hq])) x hx

theorem renders_actions {s : Seq} (h : s.Printable) :
    Renders s.actions fun xs => ∀ x ∈ xs, Renders x.run IsText := by
  obtain ⟨ps, hs, hps⟩ := h
  cases s with
  | items xs =>
    cases hs
    exact renders_pure (renders_actionsOf hps)
  | spread host xs =>
    cases hs
    exact renders_pure (renders_actionsOf hps)
  | single host => cases hs

theorem renders_present {xs : List Item} (h : ∀ x ∈ xs, Renders x.run IsText) :
    ∀ x ∈ present xs, Renders x.run IsText :=
  fun x hx => h x (List.mem_filter.1 hx).1

section Forms

variable {m : Marks}

theorem Printable.text {α : Type} {p : Piece} (h : Printable p) {k : String → Render α}
    {P : α → Prop} (hk : ∀ s, Renders (k s) P) : Renders (do let s ← textOf (← p.render); k s) P :=
  renders_bind h fun _ hq => renders_bind (renders_textOf hq) fun s _ => hk s

/-- The text of the part is used further, or an empty one in its place. -/
theorem Printable.textOrEmpty {α : Type} {p : Piece} (h : Printable p) {k : String → Render α}
    {P : α → Prop} (hk : ∀ s, Renders (k s) P) :
    Renders (if p.isAbsent then pure "" >>= k else do let s ← textOf (← p.render); k s) P :=
  renders_ite (hk "") (h.text hk)

theorem Printable.markedOrEmpty {α : Type} {p : Piece} (h : Printable p) {f : String → String}
    {k : String → Render α} {P : α → Prop} (hk : ∀ s, Renders (k s) P) :
    Renders (if p.isAbsent then pure "" >>= k
      else do let s ← textOf (← p.render); let t ← pure (f s); k t) P :=
  renders_ite (hk "") (h.text fun s => hk (f s))

/-- What is absent is rendered too, where a form does not leave it out. -/
theorem printable_absent : Printable .absent := renders_say _

/-- Leaves that show their value. -/
theorem printable_leaf {k : Leaf} (hk : k ∈ [.ident, .number, .string, .boolean, .null]) (s : String) :
    Printable (.node (.leaf k (.text s)) m) := by
  simp only [List.mem_cons, List.not_mem_nil, or_false] at hk
  rcases hk with rfl | rfl | rfl | rfl | rfl <;> exact renders_say _

theorem printable_program {s : Seq} (h : s.Printable) : Printable (.node (.group .program s) m) := by
  refine renders_bind (renders_actions h) fun xs hxs => ?_
  exact renders_bind (renders_list (renders_present hxs) _) fun _ _ => renders_say _

theorem printable_block {s : Seq} (h : s.Printable) : Printable (.node (.group .block s) m) := by
  have hbody : Renders (do return present (← s.actions)) fun xs => ∀ x ∈ xs, Renders x.run IsText :=
    renders_bind (renders_actions h) fun xs hxs => renders_pure (renders_present hxs)
  refine renders_bind (renders_indented hbody _) fun body _ => ?_
  exact renders_bind (renders_braces body) fun _ _ => renders_say _

theorem printable_vars {s : Seq} (h : s.Printable) : Printable (.node (.group .vars s) m) := by
  refine renders_bind (renders_actions h) fun xs hxs => ?_
  exact renders_bind (renders_list (renders_present hxs) _) fun _ _ => renders_say _

theorem printable_array {ps : List Piece} (h : ∀ p ∈ ps, Printable p) :
    Printable (.node (.array (.items ps)) m) := by
  refine renders_bind (renders_actions (items_printable h)) fun xs hxs => ?_
  exact renders_bind (renders_cells hxs) fun _ _ => renders_say _

theorem printable_object {s : Seq} (h : s.Printable) : Printable (.node (.object s) m) := by
  refine renders_bind (renders_indented (renders_actions h) _) fun body _ => ?_
  exact renders_bind renders_margin fun _ _ => renders_say _

theorem printable_call {f : Piece} {s : Seq} (hf : Printable f) (h : s.Printable) :
    Printable (.node (.call f s) m) := by
  refine renders_bind hf fun _ _ => renders_bind (renders_actions h) fun xs hxs => ?_
  exact renders_bind (renders_list hxs _) fun _ _ => renders_say _

theorem printable_bracket {t i : Piece} (ht : Printable t) (hi : Printable i) :
    Printable (.node (.bracket t i) m) :=
  renders_bind ht fun _ _ => renders_bind hi fun _ _ => renders_say _

theorem printable_dot {t n : Piece} (ht : Printable t) (hn : Printable n) :
    Printable (.node (.dot t n) m) :=
  renders_bind ht fun _ _ => renders_bind hn fun _ _ => renders_say _

theorem printable_assign {op l r : Piece} (hl : Printable l) (hr : Printable r) :
    Printable (.node (.assign op l r) m) :=
  renders_bind hl fun _ _ => renders_bind hr fun _ _ => renders_say _

theorem printable_binary {op l r : Piece} (hl : Printable l) (hr : Printable r) :
    Printable (.node (.binary op l r) m) :=
  renders_bind hl fun _ _ => renders_bind hr fun _ _ => renders_say _

theorem printable_comma {l r : Piece} (hl : Printable l) (hr : Printable r) :
    Printable (.node (.comma l r) m) :=
  renders_bind hl fun _ _ => renders_bind hr fun _ _ => renders_say _

theorem printable_unary {op : String} {x t : Piece} (hx : Printable x) :
    Printable (.node (.unary (.text op) x t) m) := by
  refine renders_bind hx fun p hp => renders_ite ?_ (renders_ite (renders_say _) (renders_say _))
  refine renders_bind (renders_textOf hp) fun _ _ => ?_
  exact renders_bind (renders_textOf ⟨op, rfl⟩) fun _ _ => renders_say _

theorem printable_varDecl {n v : Piece} (hn : Printable n) (hv : Printable v) :
    Printable (.node (.varDecl n v) m) := by
  refine renders_bind hn fun p hp => ?_
  refine renders_ite (renders_bind (renders_textOf hp) fun _ _ => renders_say _) ?_
  exact renders_bind hv fun _ _ => renders_bind (renders_textOf hp) fun _ _ => renders_say _

theorem printable_returns {v : Piece} (hv : Printable v) : Printable (.node (.returns v) m) :=
  renders_ite (renders_say _) (renders_bind hv fun _ _ => renders_say _)

theorem printable_throws {v : Piece} (hv : Printable v) : Printable (.node (.throws v) m) :=
  renders_bind hv fun _ _ => renders_say _

theorem printable_exprStatement {v : Piece} (hv : Printable v) :
    Printable (.node (.exprStatement v) m) :=
  renders_bind hv fun _ _ => renders_say _

theorem printable_whileDo {t b : Piece} (ht : Printable t) (hb : Printable b) :
    Printable (.node (.whileDo t b) m) := by
  refine renders_bind ht fun _ _ => renders_bind hb fun p hp => ?_
  exact renders_bind (renders_textOf hp) fun _ _ => renders_say _

theorem printable_breakTo : Printable (.node (.breakTo .absent) m) := renders_say _

theorem printable_continueTo : Printable (.node (.continueTo .absent) m) := renders_say _

theorem printable_this : Printable (.node .this m) := renders_say _

theorem printable_ifThen {t y n : Piece} (ht : Printable t) (hy : Printable y) (hn : Printable n) :
    Printable (.node (.ifThen t y n) m) :=
  ht.textOrEmpty fun _ => hy.text fun _ => hn.markedOrEmpty fun _ => renders_say _

theorem printable_forLoop {i t s b : Piece} (hi : Printable i) (ht : Printable t) (hs : Printable s)
    (hb : Printable b) : Printable (.node (.forLoop i t s b) m) :=
  hi.textOrEmpty fun _ => ht.textOrEmpty fun _ => hs.textOrEmpty fun _ => hb.text fun _ => renders_say _

theorem printable_tryDo {b c f : Piece} (hb : Printable b) (hc : Printable c) (hf : Printable f) :
    Printable (.node (.tryDo b c f) m) :=
  hb.text fun _ => hc.markedOrEmpty fun _ => hf.markedOrEmpty fun _ => renders_say _

/-- A block in the place of a list. -/
theorem renders_host {ps : List Piece} (h : ∀ p ∈ ps, Printable p) :
    Renders (Seq.ofPiece (Walk.block ps)).renderHost IsText :=
  printable_block (m := {}) (items_printable h)

theorem printable_catchDo {n : Piece} {ps : List Piece} (hn : Printable n)
    (h : ∀ p ∈ ps, Printable p) :
    Printable (.node (.catchDo n (Seq.ofPiece (Walk.block ps))) m) :=
  renders_bind hn fun _ _ => renders_bind (renders_host h) fun _ _ => renders_say _

theorem printable_finallyDo {ps : List Piece} (h : ∀ p ∈ ps, Printable p) :
    Printable (.node (.finallyDo (Seq.ofPiece (Walk.block ps))) m) :=
  renders_bind (renders_host h) fun _ _ => renders_say _

/-- A function without a name. -/
theorem printable_function {ps b : Seq} (hps : ps.Printable) (hb : b.Printable) :
    Printable (.node (.function .expr .absent ps b) m) := by
  have hname : Renders (pure "") fun _ => True := renders_pure trivial
  refine renders_bind (renders_indented (renders_actions hb) _) fun body _ => ?_
  refine renders_bind hname fun name _ => renders_bind (renders_actions hps) fun xs hxs => ?_
  refine renders_bind (renders_list hxs _) fun params _ => ?_
  exact renders_bind (renders_braces body) fun _ _ => renders_say _

end Forms

end Transpile.Script
