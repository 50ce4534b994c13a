import Transpile.Proofs.Rendering.Steps

/-! Forms that are rendered. A form whose parts end at the level where they started, with texts that
leave no bracket owed, does so too. -/

namespace Transpile.Script

open Render Text

/-- The piece is even in each of the places where it can stand, and its renderings end at the level
where they started. -/
structure Piece.Steady (R : List Char → String → List Char → Prop) (unit : String) (p : Piece) :
    Prop where
  shown : Even R p.shown
  quoted : Even R p.quoted
  value : ∀ v, p.value = .ok v → Even R v.shown
  run : Returns unit 0 0 p.render (EvenShown R)
  asCase : Returns unit 0 0 p.renderCase (Even R)
  asDefault : Returns unit 0 0 p.renderDefault (Even R)

def Seq.Steady (R : List Char → String → List Char → Prop) (unit : String) (s : Seq) : Prop :=
  ∀ p ∈ s.pieces, p.Steady R unit

section

variable {R : List Char → String → List Char → Prop} {unit : String} {i : Nat} {m : Marks}

theorem steady_actionsOf {ps : List Piece} (h : ∀ p ∈ ps, p.Steady R unit) :
    ∀ x ∈ actionsOf ps, x.Steady R unit := by
  induction ps with
  | nil => exact fun x hx => by cases hx
  | cons p ps ih =>
    intro x hx
    rcases List.mem_cons.1 hx with rfl | hx
    · have hp := h p (by simp)
      exact ⟨hp.run, hp.asCase⟩
    · exact ih (fun q hq => h q (by simp [hq])) x hx

theorem returns_actions {s : Seq} (h : s.Steady R unit) :
    Returns unit i i s.actions fun xs => ∀ x ∈ xs, x.Steady R unit := by
  cases s with
  | items xs => exact returns_pure (steady_actionsOf h)
  | spread host xs => exact returns_pure (steady_actionsOf fun p hp => h p (.tail _ hp))
  | single host => exact returns_throw

theorem Piece.Steady.text {p : Piece} (h : p.Steady R unit) {β : Type} {f : String → Render β}
    {Q : β → Prop} (hf : ∀ s, Even R s → Returns unit 0 0 (f s) Q) :
    Returns unit 0 0 (do let s ← textOf (← p.render); f s) Q :=
  returns_bind h.run fun _ hp => returns_bind (returns_textOf hp) hf

variable (hR : Tracks R)

include hR

/-! Parts that may be missing -/

theorem Form.even_quoted (f : Form) : Even R (f.quoted m) :=
  even_word hR (List.any_eq_false.2 fun c hc hbracket => by
    have hother := of_isBracket (P := fun d => !isLabelChar d) (by decide) hbracket
    simp [List.all_eq_true.1 (f.isLabelChar_quoted m) c hc] at hother)

theorem returns_unruled {p : Piece} (hp : Even R p.quoted) :
    Returns unit i i (unruled p) (EvenShown R) :=
  returns_say fun _ => hR.append (hR.word rfl) (hp _)

/-- The text of the part is used further, or an empty one in its place. -/
theorem Piece.Steady.textOrEmpty {p : Piece} (h : p.Steady R unit) {β : Type} {f : String → Render β}
    {Q : β → Prop} (hf : ∀ s, Even R s → Returns unit 0 0 (f s) Q) :
    Returns unit 0 0 (if p.isAbsent then pure "" >>= f else do let s ← textOf (← p.render); f s) Q :=
  returns_ite (fun _ => hf "" (even_empty hR)) fun _ => h.text hf

theorem Piece.Steady.markedOrEmpty {p : Piece} (h : p.Steady R unit) {mark : String}
    (hmark : Even R mark) {β : Type} {f : String → Render β} {Q : β → Prop}
    (hf : ∀ s, Even R s → Returns unit 0 0 (f s) Q) :
    Returns unit 0 0 (if p.isAbsent then pure "" >>= f
      else do let s ← textOf (← p.render); let t ← pure (mark ++ s); f t) Q :=
  returns_ite (fun _ => hf "" (even_empty hR)) fun _ => h.text fun _ hs => hf _ (hmark.append hR hs)

/-! Forms that show their parts in one line -/

theorem Leaf.returns_render {k : Leaf} {v : Piece} (hv : Even R v.shown) :
    Returns unit 0 0 (k.render v m) (EvenShown R) := by
  cases k with
  | null => exact returns_say (even_word hR (by decide))
  | debugger => exact returns_say fun _ => hR.append (hv _) (hR.word rfl)
  | regex =>
    refine returns_ite (fun _ => returns_say fun _ => ?_) fun _ => returns_pure hv
    exact hR.append (hR.append (hR.word rfl) (hv _)) (hR.word rfl)
  | elision => exact returns_unruled hR (Form.even_quoted hR _)
  | _ => exact returns_pure hv

theorem returns_array {s : Seq} (hs : s.Steady R unit) :
    Returns unit 0 0 (Form.render (.array s) m) (EvenShown R) := by
  have hcells : Returns unit 0 0 (do say ("[" ++ (← cells (← s.actions)) ++ "]")) (EvenShown R) := by
    refine returns_bind (returns_actions hs) fun xs hxs => ?_
    refine returns_bind (returns_cells hR hxs) fun body hbody => returns_say fun _ => ?_
    exact hR.append (hR.append (hR.word rfl) (hbody _)) (hR.word rfl)
  cases s with
  | spread host xs =>
    cases host with
    | node f m => exact returns_throw
    | _ => exact hcells
  | _ => exact hcells

theorem returns_newExpr {c : Piece} {s : Seq} (hc : c.Steady R unit) (hs : s.Steady R unit) :
    Returns unit 0 0 (Form.render (.newExpr c s) m) (EvenShown R) := by
  refine returns_bind hc.run fun c hc => returns_bind (returns_actions hs) fun xs hxs => ?_
  refine returns_bind (returns_list hR (even_word hR (by decide)) hxs) fun args hargs => ?_
  refine returns_say fun _ => ?_
  exact hR.append (hR.append (hR.append (hR.append (hR.word rfl) (hc _)) (hR.word rfl)) (hargs _))
    (hR.word rfl)

theorem returns_call {c : Piece} {s : Seq} (hc : c.Steady R unit) (hs : s.Steady R unit) :
    Returns unit 0 0 (Form.render (.call c s) m) (EvenShown R) := by
  refine returns_bind hc.run fun c hc => returns_bind (returns_actions hs) fun xs hxs => ?_
  refine returns_bind (returns_list hR (even_word hR (by decide)) hxs) fun args hargs => ?_
  refine returns_say (Even.wrap hR (fun _ => ?_) m)
  exact hR.append (hR.append (hR.append (hc _) (hR.word rfl)) (hargs _)) (hR.word rfl)

theorem returns_bracket {t n : Piece} (ht : t.Steady R unit) (hn : n.Steady R unit) :
    Returns unit 0 0 (Form.render (.bracket t n) m) (EvenShown R) := by
  refine returns_bind ht.run fun t ht => returns_bind hn.run fun n hn => returns_say fun _ => ?_
  exact hR.append (hR.append (hR.append (ht _) (hR.word rfl)) (hn _)) (hR.word rfl)

theorem returns_dot {t n : Piece} (ht : t.Steady R unit) (hn : n.Steady R unit) :
    Returns unit 0 0 (Form.render (.dot t n) m) (EvenShown R) := by
  refine returns_bind ht.run fun t ht => returns_bind hn.run fun n hn => ?_
  refine returns_say (Even.wrap hR (fun _ => ?_) m)
  exact hR.append (hR.append (ht _) (hR.word rfl)) (hn _)

theorem returns_comma {l r : Piece} (hl : l.Steady R unit) (hr : r.Steady R unit) :
    Returns unit 0 0 (Form.render (.comma l r) m) (EvenShown R) := by
  refine returns_bind hl.run fun l hl => returns_bind hr.run fun r hr => ?_
  refine returns_say (Even.wrap hR (fun _ => ?_) m)
  exact hR.append (hR.append (hl _) (hR.word rfl)) (hr _)

theorem returns_assign {op l r : Piece} (hop : Even R op.shown) (hl : l.Steady R unit)
    (hr : r.Steady R unit) : Returns unit 0 0 (Form.render (.assign op l r) m) (EvenShown R) := by
  refine returns_bind hl.run fun l hl => returns_bind hr.run fun r hr => ?_
  refine returns_say (Even.wrap hR (fun owed => ?_) m)
  refine hR.append (hR.append (hR.append (hR.append (hl owed) ?_) (hop owed)) (hR.word rfl)) (hr owed)
  split <;> exact hR.word rfl

theorem returns_binary {op l r : Piece} (hop : Even R op.shown) (hl : l.Steady R unit)
    (hr : r.Steady R unit) : Returns unit 0 0 (Form.render (.binary op l r) m) (EvenShown R) := by
  refine returns_bind hl.run fun l hl => returns_bind hr.run fun r hr => ?_
  refine returns_say (Even.wrap hR (fun _ => ?_) m)
  exact hR.append (hR.append (hR.append (hR.append (hl _) (hR.word rfl)) (hop _)) (hR.word rfl)) (hr _)

theorem returns_conditional {t y n : Piece} (ht : t.Steady R unit) (hy : y.Steady R unit)
    (hn : n.Steady R unit) :
    Returns unit 0 0 (Form.render (.conditional t y n) m) (EvenShown R) := by
  refine returns_bind ht.run fun t ht => returns_bind hy.run fun y hy => ?_
  refine returns_bind hn.run fun n hn => returns_say (Even.wrap hR (fun _ => ?_) m)
  exact hR.append (hR.append (hR.append (hR.append (ht _) (hR.word rfl)) (hy _)) (hR.word rfl)) (hn _)

theorem returns_unary {op x t : Piece} (hop : Even R op.shown) (hx : x.Steady R unit) :
    Returns unit 0 0 (Form.render (.unary op x t) m) (EvenShown R) := by
  refine returns_bind hx.run fun x hx => returns_ite (fun _ => ?_) fun _ => returns_ite (fun _ => ?_)
    fun _ => ?_
  · refine returns_bind (returns_textOf hx) fun s hs => returns_bind (returns_textOf hop) fun o ho => ?_
    exact returns_say (Even.wrap hR (hs.append hR ho) m)
  · refine returns_say (Even.wrap hR (fun _ => ?_) m)
    exact hR.append (hR.append (hop _) (hR.word rfl)) (hx _)
  · exact returns_say (Even.wrap hR (Even.append hR hop hx) m)

theorem returns_varDecl {n v : Piece} (hn : n.Steady R unit) (hv : v.Steady R unit) :
    Returns unit 0 0 (Form.render (.varDecl n v) m) (EvenShown R) := by
  refine returns_bind hn.run fun n hn => returns_ite (fun _ => ?_) fun _ => ?_
  · exact returns_bind (returns_textOf hn) fun s hs => returns_say hs
  · refine returns_bind hv.run fun v hv => returns_bind (returns_textOf hn) fun s hs => ?_
    exact returns_say fun _ => hR.append (hR.append (hs _) (hR.word rfl)) (hv _)

theorem returns_program {s : Seq} (hs : s.Steady R unit) :
    Returns unit 0 0 (Form.render (.group .program s) m) (EvenShown R) := by
  refine returns_bind (returns_actions hs) fun xs hxs => ?_
  exact returns_bind (returns_list hR (even_word hR (by decide)) (steady_present hxs)) fun s hs =>
    returns_say hs

theorem returns_vars {s : Seq} (hs : s.Steady R unit) :
    Returns unit 0 0 (Form.render (.group .vars s) m) (EvenShown R) := by
  refine returns_bind (returns_actions hs) fun xs hxs => ?_
  refine returns_bind (returns_list hR (even_word hR (by decide)) (steady_present hxs)) fun s hs => ?_
  exact returns_say fun _ => hR.append (hR.append (hR.word rfl) (hs _)) (hR.word rfl)

/-! Statements -/

theorem returns_ifThen {t y n : Piece} (ht : t.Steady R unit) (hy : y.Steady R unit)
    (hn : n.Steady R unit) : Returns unit 0 0 (Form.render (.ifThen t y n) m) (EvenShown R) := by
  refine ht.textOrEmpty hR fun t ht => hy.text fun y hy => ?_
  refine hn.markedOrEmpty hR (even_word hR (by decide)) fun n hn => returns_say fun _ => ?_
  exact hR.append (hR.append (hR.append (hR.append (hR.word rfl) (ht _)) (hR.word rfl)) (hy _)) (hn _)

theorem returns_doWhile {t b : Piece} (ht : t.Steady R unit) (hb : b.Steady R unit) :
    Returns unit 0 0 (Form.render (.doWhile t b) m) (EvenShown R) := by
  refine hb.text fun b hb => returns_bind ht.run fun t ht => returns_say fun _ => ?_
  exact hR.append (hR.append (hR.append (hR.append (hR.word rfl) (hb _)) (hR.word rfl)) (ht _))
    (hR.word rfl)

theorem returns_whileDo {t b : Piece} (ht : t.Steady R unit) (hb : b.Steady R unit) :
    Returns unit 0 0 (Form.render (.whileDo t b) m) (EvenShown R) := by
  refine returns_bind ht.run fun t ht => hb.text fun b hb => returns_say fun _ => ?_
  exact hR.append (hR.append (hR.append (hR.word rfl) (ht _)) (hR.word rfl)) (hb _)

theorem returns_withDo {t b : Piece} (ht : t.Steady R unit) (hb : b.Steady R unit) :
    Returns unit 0 0 (Form.render (.withDo t b) m) (EvenShown R) := by
  refine returns_bind ht.run fun t ht => hb.text fun b hb => returns_say fun _ => ?_
  exact hR.append (hR.append (hR.append (hR.word rfl) (ht _)) (hR.word rfl)) (hb _)

theorem returns_forLoop {a t s b : Piece} (ha : a.Steady R unit) (ht : t.Steady R unit)
    (hs : s.Steady R unit) (hb : b.Steady R unit) :
    Returns unit 0 0 (Form.render (.forLoop a t s b) m) (EvenShown R) := by
  refine ha.textOrEmpty hR fun start hstart => ht.textOrEmpty hR fun t ht => ?_
  refine hs.textOrEmpty hR fun s hs => hb.text fun b hb => returns_say fun _ => ?_
  have hgap : Even R (if a.isAbsent then " ; " else if a.isLoopStart then "; " else " ") := by
    split_ifs <;> exact even_word hR (by decide)
  exact hR.append (hR.append (hR.append (hR.append (hR.append (hR.append (hR.append (hR.word rfl)
    (hstart _)) (hgap _)) (ht _)) (hR.word rfl)) (hs _)) (hR.word rfl)) (hb _)

theorem returns_forIn {x s b : Piece} (hx : x.Steady R unit) (hs : s.Steady R unit)
    (hb : b.Steady R unit) : Returns unit 0 0 (Form.render (.forIn x s b) m) (EvenShown R) := by
  refine returns_bind hx.run fun item hitem => returns_bind hs.run fun s hs => hb.text fun b hb => ?_
  have hvar : Even R (if x.isVarDecl then "var " else "") := by
    split_ifs <;> exact even_word hR (by decide)
  refine returns_say fun _ => ?_
  exact hR.append (hR.append (hR.append (hR.append (hR.append (hR.append (hR.word rfl) (hvar _))
    (hitem _)) (hR.word rfl)) (hs _)) (hR.word rfl)) (hb _)

/-- A jump names the value of its label. -/
theorem returns_jump {word : String} (hword : Even R word) {l : Piece} (hl : l.Steady R unit) :
    Returns unit 0 0 (do let v ← (liftM l.value : Render Piece); say (word ++ v.shown ++ ";"))
      (EvenShown R) := by
  have hvalue : Returns unit 0 0 (liftM l.value : Render Piece) (EvenShown R) := by
    intro level v level' hr
    cases h : l.value with
    | error c =>
      rw [h] at hr
      cases hr
    | ok w =>
      rw [h] at hr
      cases hr
      exact ⟨rfl, hl.value v h⟩
  refine returns_bind hvalue fun v hv => returns_say fun _ => ?_
  exact hR.append (hR.append (hword _) (hv _)) (hR.word rfl)

theorem returns_continueTo {l : Piece} (hl : l.Steady R unit) :
    Returns unit 0 0 (Form.render (.continueTo l) m) (EvenShown R) :=
  returns_ite (fun _ => returns_say (even_word hR (by decide))) fun _ =>
    returns_jump hR (even_word hR (by decide)) hl

theorem returns_breakTo {l : Piece} (hl : l.Steady R unit) :
    Returns unit 0 0 (Form.render (.breakTo l) m) (EvenShown R) :=
  returns_ite (fun _ => returns_say (even_word hR (by decide))) fun _ =>
    returns_jump hR (even_word hR (by decide)) hl

theorem returns_returns {v : Piece} (hv : v.Steady R unit) :
    Returns unit 0 0 (Form.render (.returns v) m) (EvenShown R) := by
  refine returns_ite (fun _ => returns_say (even_word hR (by decide))) fun _ => ?_
  refine returns_bind hv.run fun v hv => returns_say fun _ => ?_
  exact hR.append (hR.append (hR.word rfl) (hv _)) (hR.word rfl)

theorem returns_throws {v : Piece} (hv : v.Steady R unit) :
    Returns unit 0 0 (Form.render (.throws v) m) (EvenShown R) := by
  refine returns_bind hv.run fun v hv => returns_say fun _ => ?_
  exact hR.append (hR.append (hR.word rfl) (hv _)) (hR.word rfl)

theorem returns_exprStatement {v : Piece} (hv : v.Steady R unit) :
    Returns unit 0 0 (Form.render (.exprStatement v) m) (EvenShown R) :=
  returns_bind hv.run fun _ hv => returns_say fun _ => hR.append (hv _) (hR.word rfl)

theorem returns_label {n b : Piece} (hn : n.Steady R unit) (hb : b.Steady R unit) :
    Returns unit 0 0 (Form.render (.label n b) m) (EvenShown R) := by
  refine returns_bind hn.run fun n hn => returns_bind hb.run fun b hb => returns_say fun _ => ?_
  exact hR.append (hR.append (hn _) (hR.word rfl)) (hb _)

theorem returns_tryDo {b c f : Piece} (hb : b.Steady R unit) (hc : c.Steady R unit)
    (hf : f.Steady R unit) : Returns unit 0 0 (Form.render (.tryDo b c f) m) (EvenShown R) := by
  refine hb.text fun b hb => hc.markedOrEmpty hR (even_word hR (by decide)) fun c hc => ?_
  refine hf.markedOrEmpty hR (even_word hR (by decide)) fun f hf => returns_say fun _ => ?_
  exact hR.append (hR.append (hR.append (hR.word rfl) (hb _)) (hc _)) (hf _)

/-- What stands in the place of a list, by its own form. -/
theorem returns_host {s : Seq} (hs : s.Steady R unit) (hquoted : Even R s.host.quoted) :
    Returns unit 0 0 s.renderHost (EvenShown R) := by
  cases s with
  | items xs => exact returns_unruled hR hquoted
  | spread host xs => exact (hs host (.head _)).run
  | single host => exact (hs host (.head _)).run

theorem returns_catchDo {n : Piece} {b : Seq} (hn : n.Steady R unit) (hb : b.Steady R unit)
    (hquoted : Even R b.host.quoted) :
    Returns unit 0 0 (Form.render (.catchDo n b) m) (EvenShown R) := by
  refine returns_bind hn.run fun n hn => returns_bind (returns_host hR hb hquoted) fun b hb => ?_
  refine returns_say fun _ => ?_
  exact hR.append (hR.append (hR.append (hR.word rfl) (hn _)) (hR.word rfl)) (hb _)

theorem returns_finallyDo {b : Seq} (hb : b.Steady R unit) (hquoted : Even R b.host.quoted) :
    Returns unit 0 0 (Form.render (.finallyDo b) m) (EvenShown R) :=
  returns_bind (returns_host hR hb hquoted) fun _ hb => returns_say fun _ =>
    hR.append (hR.word rfl) (hb _)

/-! Bodies -/

variable (hunit : Even R unit)

include hunit

theorem returns_bodyOf {s : Seq} (hs : s.Steady R unit) :
    Returns unit 0 0 (indented "\n" s.actions) (Even R) :=
  returns_indented hR hunit (even_word hR (by decide)) (returns_actions hs)

theorem returns_block {s : Seq} (hs : s.Steady R unit) :
    Returns unit 0 0 (Form.render (.group .block s) m) (EvenShown R) := by
  have hrows : Returns unit 2 2 (do return present (← s.actions)) fun xs => ∀ x ∈ xs, x.Steady R unit :=
    returns_bind (returns_actions hs) fun xs hxs => returns_pure (steady_present hxs)
  refine returns_bind (returns_indented hR hunit (even_word hR (by decide)) hrows) fun body hbody => ?_
  exact returns_bind (returns_braces hR hunit hbody) fun s hs => returns_say hs

theorem returns_object {s : Seq} (hs : s.Steady R unit) :
    Returns unit 0 0 (Form.render (.object s) m) (EvenShown R) := by
  refine returns_bind (returns_indented hR hunit (even_word hR (by decide)) (returns_actions hs))
    fun body hbody => returns_bind (returns_margin hR hunit) fun close hclose => ?_
  have hbreak : Even R (if s.host.isTruthy then "\n" else "") := by
    split_ifs <;> exact even_word hR (by decide)
  refine returns_say fun _ => ?_
  exact hR.append (hR.append (hR.append (hR.append (hR.word rfl) (hbody _)) (hbreak _)) (hclose _))
    (hR.word rfl)

theorem returns_getter {n : Piece} {b : Seq} (hn : n.Steady R unit) (hb : b.Steady R unit) :
    Returns unit 0 0 (Form.render (.getter n b) m) (EvenShown R) := by
  refine returns_bind (returns_bodyOf hR hunit hb) fun body hbody => ?_
  refine returns_bind (returns_margin hR hunit) fun close hclose => ?_
  refine returns_bind hn.run fun n hn => returns_say (Even.wrap hR (fun _ => ?_) m)
  exact hR.append (hR.append (hR.append (hR.append (hR.append (hR.append (hR.word rfl) (hn _))
    (hR.word rfl)) (hbody _)) (hR.word rfl)) (hclose _)) (hR.word rfl)

theorem returns_setter {n : Piece} {ps b : Seq} (hn : n.Steady R unit) (hps : ps.Steady R unit)
    (hb : b.Steady R unit) : Returns unit 0 0 (Form.render (.setter n ps b) m) (EvenShown R) := by
  have hrest : Returns unit 0 0 (do
      let params ← ps.actions
      if params.length > 1 then throw (.setterParameters (Form.quoted (.setter n ps b) m))
      let params ← list "," params
      let body ← indented "\n" b.actions
      let close ← margin
      let name ← n.render
      say (m.wrap ("set " ++ name.shown ++ "(" ++ params ++ ") \x7b\n" ++ body ++ "\n" ++ close
        ++ "\x7d"))) (EvenShown R) := by
    refine returns_bind (returns_actions hps) fun xs hxs => returns_ite
      (fun _ => returns_bind (P := fun _ => False) (j := 0) returns_throw nofun) fun _ => ?_
    refine returns_bind (returns_list hR (even_word hR (by decide)) hxs) fun params hparams => ?_
    refine returns_bind (returns_bodyOf hR hunit hb) fun body hbody => ?_
    refine returns_bind (returns_margin hR hunit) fun close hclose => ?_
    refine returns_bind hn.run fun n hn => returns_say (Even.wrap hR (fun _ => ?_) m)
    exact hR.append (hR.append (hR.append (hR.append (hR.append (hR.append (hR.append (hR.append
      (hR.word rfl) (hn _)) (hR.word rfl)) (hparams _)) (hR.word rfl)) (hbody _)) (hR.word rfl))
      (hclose _)) (hR.word rfl)
  cases ps with
  | spread host xs =>
    cases host with
    | node f m => exact returns_throw
    | _ => exact hrest
  | _ => exact hrest

theorem returns_functionDecl {n : Piece} {ps b : Seq} (hn : n.Steady R unit)
    (hps : ps.Steady R unit) (hb : b.Steady R unit) :
    Returns unit 0 0 (Form.render (.function .decl n ps b) m) (EvenShown R) := by
  refine returns_bind (returns_bodyOf hR hunit hb) fun body hbody => returns_bind hn.run fun n hn => ?_
  refine returns_bind (returns_actions hps) fun xs hxs => ?_
  refine returns_bind (returns_list hR (even_word hR (by decide)) hxs) fun params hparams => ?_
  refine returns_bind (returns_braces hR hunit hbody) fun body hbody => returns_say fun _ => ?_
  exact hR.append (hR.append (hR.append (hR.append (hR.append (hR.word rfl) (hn _)) (hR.word rfl))
    (hparams _)) (hR.word rfl)) (hbody _)

theorem returns_functionExpr {n : Piece} {ps b : Seq} (hn : n.Steady R unit)
    (hps : ps.Steady R unit) (hb : b.Steady R unit) :
    Returns unit 0 0 (Form.render (.function .expr n ps b) m) (EvenShown R) := by
  refine returns_bind (returns_bodyOf hR hunit hb) fun body hbody => ?_
  have hrest {name : String} (hname : Even R name) : Returns unit 0 0 (do
      let params ← list ", " (← ps.actions)
      say (m.wrap ("function" ++ name ++ "(" ++ params ++ ") " ++ (← braces body))))
      (EvenShown R) := by
    refine returns_bind (returns_actions hps) fun xs hxs => ?_
    refine returns_bind (returns_list hR (even_word hR (by decide)) hxs) fun params hparams => ?_
    refine returns_bind (returns_braces hR hunit hbody) fun body hbody => ?_
    refine returns_say (Even.wrap hR (fun _ => ?_) m)
    exact hR.append (hR.append (hR.append (hR.append (hR.append (hR.word rfl) (hname _))
      (hR.word rfl)) (hparams _)) (hR.word rfl)) (hbody _)
  refine returns_ite (fun _ => ?_) fun _ => ?_
  · exact returns_bind (returns_pure (even_empty hR)) fun _ hname => hrest hname
  · refine returns_bind hn.run fun n hn => returns_bind (returns_pure ?_) fun _ hname => hrest hname
    exact Even.append hR (even_word hR (by decide)) hn

/-! Switches -/

theorem returns_caseOf {e : Piece} {b : Seq} (he : e.Steady R unit) (hb : b.Steady R unit)
    {β : Type} {f : String → Render β} {Q : β → Prop}
    (hf : ∀ s, Even R s → Returns unit 0 0 (f s) Q) :
    Returns unit 0 0 (do
      let test ← e.render
      let body ← indented "\n" b.actions
      f (caseText test body)) Q := by
  refine returns_bind he.run fun test htest => ?_
  refine returns_bind (returns_bodyOf hR hunit hb) fun body hbody => hf _ fun _ => ?_
  have hrows : Even R (if body.isEmpty then "" else body ++ "\n") := by
    split_ifs
    · exact even_empty hR
    · exact hbody.append hR (even_word hR (by decide))
  exact hR.append (hR.append (hR.append (hR.word rfl) (htest _)) (hR.word rfl)) (hrows _)

theorem returns_defaultOf {b : Seq} (hb : b.Steady R unit) {β : Type} {f : String → Render β}
    {Q : β → Prop} (hf : ∀ s, Even R s → Returns unit 0 0 (f s) Q) :
    Returns unit 0 0 (do
      let m ← margin
      let body ← indented "\n" b.actions
      f (m ++ "default:\n" ++ body ++ "\n")) Q := by
  refine returns_bind (returns_margin hR hunit) fun m hm => ?_
  refine returns_bind (returns_bodyOf hR hunit hb) fun body hbody => hf _ fun _ => ?_
  exact hR.append (hR.append (hR.append (hm _) (hR.word rfl)) (hbody _)) (hR.word rfl)

theorem returns_switch {e d : Piece} {cs : Seq} (he : e.Steady R unit) (hcs : cs.Steady R unit)
    (hd : d.Steady R unit) : Returns unit 0 0 (Form.render (.switch e cs d) m) (EvenShown R) := by
  refine returns_bind he.run fun e he => returns_bind returns_deeper fun _ _ => ?_
  refine returns_bind (returns_actions hcs) fun xs hxs => ?_
  refine returns_bind (returns_cases hR hunit hxs) fun body hbody => ?_
  -- the level is put back before the closing brace
  have hrest {last : String} (hlast : Even R last) : Returns unit 2 0 (do
      shallower
      say ("switch (" ++ e.shown ++ ") \x7b\n" ++ body ++ last ++ (← margin) ++ "\x7d"))
      (EvenShown R) := by
    refine returns_bind returns_shallower fun _ _ => ?_
    refine returns_bind (returns_margin hR hunit) fun close hclose => returns_say fun _ => ?_
    exact hR.append (hR.append (hR.append (hR.append (hR.append (hR.append (hR.word rfl) (he _))
      (hR.word rfl)) (hbody _)) (hlast _)) (hclose _)) (hR.word rfl)
  refine returns_ite (fun _ => ?_) fun _ => ?_
  · exact returns_bind (returns_pure (even_empty hR)) fun _ hlast => hrest hlast
  · exact returns_bind (hd.asDefault.shift 2) fun _ hlast => hrest hlast

end

end Transpile.Script
