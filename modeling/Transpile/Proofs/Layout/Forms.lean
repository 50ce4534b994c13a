import Transpile.Proofs.Layout.Uniform
import Transpile.Proofs.Parts

/-! Layouts of forms. Each form is rendered alike at all levels if its parts are; forms that bring
text of their own start with a line that holds something. -/

namespace Transpile.Script

open Render

variable {full : Bool} {i : Nat} {m : Marks}

/-- A piece whose text is empty only where texts need not be `full`. -/
abbrev Piece.Laid (full : Bool) (p : Piece) : Prop := Script.Laid full (full = true) p

def Seq.Laid (full : Bool) (s : Seq) : Prop := ∀ p ∈ s.pieces, p.Laid full

theorem runsLaid_actionsOf {ps : List Piece} (h : ∀ p ∈ ps, p.Laid full) :
    RunsLaid full (actionsOf ps) := by
  induction ps with
  | nil => exact fun x hx => by cases hx
  | cons p ps ih =>
    intro x hx
    rcases List.mem_cons.1 hx with rfl | hx
    · exact h p (by simp)
    · exact ih (fun q hq => h q (by simp [hq])) x hx

theorem uniform_actions {s : Seq} (h : s.Laid full) :
    Uniform i i (fun _ _ => s.actions) fun d => ∃ xs, RunsLaid full xs ∧ d = fun _ _ => xs := by
  cases s with
  | items xs => exact uniform_pure ⟨_, runsLaid_actionsOf h, rfl⟩
  | spread host xs =>
    exact uniform_pure ⟨_, runsLaid_actionsOf fun p hp => h p (List.mem_cons_of_mem _ hp), rfl⟩
  | single host => exact uniform_throw

theorem runsLaid_present {xs : List Item} (h : RunsLaid full xs) : RunsLaid full (present xs) :=
  fun x hx => h x (List.mem_filter.1 hx).1

theorem uniform_bodyOf {s : Seq} (h : s.Laid full) (sep : String) :
    Uniform 0 0 (fun _ _ => indented sep s.actions) (Indented full sep) :=
  uniform_indented (uniform_actions h)

/-- A line that ends where a body starts. -/
def Opens (full : Bool) (k : Leveled) : Prop :=
  ∃ g, Layered full True g ∧ ∀ unit level, k unit level = g unit level ++ "\n"

theorem opens_word {s t : String} (ht : t ≠ "" ∧ '\n' ∉ t.toList) (hs : s = t ++ "\n") :
    Opens full fun _ _ => s :=
  ⟨_, .opening ht, fun _ _ => hs⟩

theorem Layered.opens {a : Prop} {g k : Leveled} (hg : Layered full a g) (hk : Opens full k) :
    Opens full fun unit level => g unit level ++ k unit level := by
  obtain ⟨h, hh, hkt⟩ := hk
  exact ⟨_, (hg.append hh).imp .inr, fun unit level => by simp only [hkt, String.append_assoc]⟩

/-- What stands between two rows ends the line. -/
def EndsLine (sep : String) : Prop := ∃ mark : String, '\n' ∉ mark.toList ∧ sep = mark ++ "\n"

theorem endsLine_break : EndsLine "\n" := ⟨"", by decide, by decide⟩

theorem endsLine_comma : EndsLine ",\n" := ⟨",", by decide, by decide⟩

theorem Indented.braced {sep : String} {d k : Leveled} (hd : Indented full sep d)
    (hsep : EndsLine sep) (hk : Opens full k) :
    Layered full True fun unit level =>
      k unit level ++ d unit level ++ "\n" ++ marginOf unit level ++ "\x7d" := by
  obtain ⟨mark, hmark, rfl⟩ := hsep
  obtain ⟨hs, hhs, rfl⟩ := hd
  obtain ⟨g, hg, hkt⟩ := hk
  simp only [hkt]
  exact layered_body hg hmark hhs true (by simp)

theorem opens_brace : Opens full fun _ _ => "\x7b\n" :=
  opens_word (t := "\x7b") (by decide) (by decide)

theorem uniform_braces {d : Leveled} (hd : Indented full "\n" d) :
    Uniform 0 0 (fun unit level => braces (d unit level)) (Layered full True) := by
  refine uniform_bind uniform_margin fun e he => ?_
  subst he
  exact uniform_pure (hd.braced endsLine_break opens_brace)

/-! Parts that may be missing -/

theorem Piece.Laid.text {α : Type} {p : Piece} (h : p.Laid full)
    {k : String → Nat → String → Render α} {D : (String → Nat → α) → Prop}
    (hk : ∀ g, Layered full (full = true) g →
      Uniform 0 0 (fun unit level => k unit level (g unit level)) D) :
    Uniform 0 0 (fun unit level => do let s ← textOf (← p.render); k unit level s) D :=
  uniform_bind h fun _ hd => uniform_bind (uniform_textOf hd) fun g hg => hk g hg

/-- The text of the part is used further, or an empty one in its place. -/
theorem Piece.Laid.textOrEmpty {α : Type} {p : Piece} (h : p.Laid full)
    {k : String → Nat → String → Render α} {D : (String → Nat → α) → Prop}
    (hk : ∀ g, Layered full False g →
      Uniform 0 0 (fun unit level => k unit level (g unit level)) D) :
    Uniform 0 0 (fun unit level => if p.isAbsent then pure "" >>= k unit level
      else do let s ← textOf (← p.render); k unit level s) D := by
  refine uniform_ite (fun _ => ?_) fun _ => h.text fun g hg => hk g (hg.imp False.elim)
  exact uniform_bind (uniform_pure (Layered.imp (.word (by decide)) False.elim)) hk

theorem Piece.Laid.markedOrEmpty {α : Type} {p : Piece} (h : p.Laid full) {mark : String}
    (hmark : '\n' ∉ mark.toList) {k : String → Nat → String → Render α}
    {D : (String → Nat → α) → Prop}
    (hk : ∀ g, Layered full False g →
      Uniform 0 0 (fun unit level => k unit level (g unit level)) D) :
    Uniform 0 0 (fun unit level => if p.isAbsent then pure "" >>= k unit level
      else do
        let s ← textOf (← p.render)
        let t ← pure (mark ++ s)
        k unit level t) D := by
  refine uniform_ite (fun _ => ?_) fun _ => h.text fun g hg => ?_
  · exact uniform_bind (uniform_pure (Layered.imp (.word (by decide)) False.elim)) hk
  · refine uniform_bind (uniform_pure ?_) hk
    exact ((Layered.word hmark).then hg).imp False.elim

/-! Forms that show their parts in one line -/

theorem laid_unruled {p : Piece} (hp : '\n' ∉ p.quoted.toList) :
    Uniform i i (fun _ _ => unruled p) (Rendered full True) :=
  uniform_say (.then (.opening (by decide)) (.word hp))

theorem laid_call {c : Piece} {s : Seq} (hc : c.Laid full) (hs : s.Laid full) :
    Laid full True (.node (.call c s) m) := by
  refine uniform_bind hc fun d hd => uniform_bind (uniform_actions hs) fun e he => ?_
  obtain ⟨xs, hxs, rfl⟩ := he
  refine uniform_bind (uniform_list (by decide) hxs) fun g hg => uniform_say (.wrap ?_ m)
  exact .then (.then (.closed hd.shown (by decide)) hg) (.word (by decide))

theorem laid_newExpr {c : Piece} {s : Seq} (hc : c.Laid full) (hs : s.Laid full) :
    Laid full True (.node (.newExpr c s) m) := by
  refine uniform_bind hc fun d hd => uniform_bind (uniform_actions hs) fun e he => ?_
  obtain ⟨xs, hxs, rfl⟩ := he
  refine uniform_bind (uniform_list (by decide) hxs) fun g hg => uniform_say ?_
  exact .then (.then (.then (.then (.opening (by decide)) hd.shown) (.word (by decide))) hg)
    (.word (by decide))

theorem laid_bracket {t n : Piece} (ht : t.Laid full) (hn : n.Laid full) :
    Laid full True (.node (.bracket t n) m) := by
  refine uniform_bind ht fun d hd => uniform_bind hn fun e he => uniform_say ?_
  exact .then (.then (.closed hd.shown (by decide)) he.shown) (.word (by decide))

theorem laid_dot {t n : Piece} (ht : t.Laid full) (hn : n.Laid full) :
    Laid full True (.node (.dot t n) m) := by
  refine uniform_bind ht fun d hd => uniform_bind hn fun e he => uniform_say (.wrap ?_ m)
  exact .then (.closed hd.shown (by decide)) he.shown

theorem laid_comma {l r : Piece} (hl : l.Laid full) (hr : r.Laid full) :
    Laid full True (.node (.comma l r) m) := by
  refine uniform_bind hl fun d hd => uniform_bind hr fun e he => uniform_say (.wrap ?_ m)
  exact .then (.closed hd.shown (by decide)) he.shown

theorem laid_binary {op l r : Piece} (hop : '\n' ∉ op.shown.toList) (hl : l.Laid full)
    (hr : r.Laid full) : Laid full True (.node (.binary op l r) m) := by
  refine uniform_bind hl fun d hd => uniform_bind hr fun e he => uniform_say (.wrap ?_ m)
  exact .then (.closed (.then (.closed hd.shown (by decide)) (.word hop)) (by decide)) he.shown

theorem laid_assign {op l r : Piece} (hop : '\n' ∉ op.shown.toList) (hl : l.Laid full)
    (hr : r.Laid full) : Laid full True (.node (.assign op l r) m) := by
  refine uniform_bind hl fun d hd => uniform_bind hr fun e he => uniform_say (.wrap ?_ m)
  refine .then (.closed (.then (.then hd.shown (.word ?_)) (.word hop)) (by decide)) he.shown
  split <;> decide

theorem laid_conditional {t y n : Piece} (ht : t.Laid full) (hy : y.Laid full) (hn : n.Laid full) :
    Laid full True (.node (.conditional t y n) m) := by
  refine uniform_bind ht fun d hd => uniform_bind hy fun e he => uniform_bind hn fun g hg => ?_
  refine uniform_say (.wrap ?_ m)
  exact .then (.closed (.then (.closed hd.shown (by decide)) he.shown) (by decide)) hg.shown

theorem laid_unary {op x t : Piece} (hop : '\n' ∉ op.shown.toList) (hx : x.Laid full) :
    Script.Laid full (full = true) (.node (.unary op x t) m) := by
  refine uniform_bind hx fun d hd => uniform_ite (fun _ => ?_) fun _ => uniform_ite (fun _ => ?_)
    fun _ => ?_
  · have hsign : Rendered full (op.shown ≠ "") fun _ _ => op := rendered_const hop
    refine uniform_bind (uniform_textOf hd) fun g hg => ?_
    exact uniform_bind (uniform_textOf hsign) fun h hh => uniform_say (.wrap (hg.then hh) m)
  · refine uniform_say (.wrap (Layered.imp ?_ fun _ => trivial) m)
    exact .then (.closed (.word hop) (by decide)) hd.shown
  · exact uniform_say (.wrap ((Layered.append (.word hop) hd.shown).imp .inr) m)

theorem laid_varDecl {n v : Piece} (hn : n.Laid full) (hv : v.Laid full) :
    (Piece.node (.varDecl n v) m).Laid full := by
  refine uniform_bind hn fun d hd => uniform_ite (fun _ => ?_) fun _ => ?_
  · exact uniform_bind (uniform_textOf hd) fun g hg => uniform_say hg
  · refine uniform_bind hv fun e he => uniform_bind (uniform_textOf hd) fun g hg => uniform_say ?_
    exact (hg.then (.word (by decide))).then he.shown

theorem laid_vars {s : Seq} (hs : s.Laid full) : Laid full True (.node (.group .vars s) m) := by
  refine uniform_bind (uniform_actions hs) fun d hd => ?_
  obtain ⟨xs, hxs, rfl⟩ := hd
  refine uniform_bind (uniform_list (by decide) (runsLaid_present hxs)) fun g hg => uniform_say ?_
  exact .then (.then (.opening (by decide)) hg) (.word (by decide))

theorem laid_array {s : Seq} (hs : s.Laid full) : Laid full True (.node (.array s) m) := by
  have hcells : Uniform 0 0 (fun _ _ => do say ("[" ++ (← cells (← s.actions)) ++ "]"))
      (Rendered full True) := by
    refine uniform_bind (uniform_actions hs) fun d hd => ?_
    obtain ⟨xs, hxs, rfl⟩ := hd
    refine uniform_bind (uniform_cells hxs) fun g hg => uniform_say ?_
    exact .then (.then (.opening (by decide)) hg) (.word (by decide))
  cases s with
  | spread host xs =>
    cases host with
    | node f m => exact uniform_throw
    | _ => exact hcells
  | _ => exact hcells

/-! Statements -/

theorem laid_exprStatement {v : Piece} (hv : v.Laid full) :
    Laid full True (.node (.exprStatement v) m) :=
  uniform_bind hv fun _ hd => uniform_say (.closed hd.shown (by decide))

theorem laid_returns {v : Piece} (hv : v.Laid full) : Laid full True (.node (.returns v) m) := by
  refine uniform_ite (fun _ => uniform_say (.opening (by decide))) fun _ => ?_
  refine uniform_bind hv fun d hd => uniform_say ?_
  exact .then (.then (.opening (by decide)) hd.shown) (.word (by decide))

theorem laid_throws {v : Piece} (hv : v.Laid full) : Laid full True (.node (.throws v) m) := by
  refine uniform_bind hv fun d hd => uniform_say ?_
  exact .then (.then (.opening (by decide)) hd.shown) (.word (by decide))

theorem laid_label {n b : Piece} (hn : n.Laid full) (hb : b.Laid full) :
    Laid full True (.node (.label n b) m) := by
  refine uniform_bind hn fun d hd => uniform_bind hb fun e he => uniform_say ?_
  exact .then (.closed hd.shown (by decide)) he.shown

theorem laid_whileDo {t b : Piece} (ht : t.Laid full) (hb : b.Laid full) :
    Laid full True (.node (.whileDo t b) m) := by
  refine uniform_bind ht fun d hd => hb.text fun g hg => uniform_say ?_
  exact .then (.then (.then (.opening (by decide)) hd.shown) (.word (by decide))) hg

theorem laid_withDo {s b : Piece} (hs : s.Laid full) (hb : b.Laid full) :
    Laid full True (.node (.withDo s b) m) := by
  refine uniform_bind hs fun d hd => hb.text fun g hg => uniform_say ?_
  exact .then (.then (.then (.opening (by decide)) hd.shown) (.word (by decide))) hg

theorem laid_doWhile {t b : Piece} (ht : t.Laid full) (hb : b.Laid full) :
    Laid full True (.node (.doWhile t b) m) := by
  refine hb.text fun g hg => uniform_bind ht fun d hd => uniform_say ?_
  exact .then (.then (.then (.then (.opening (by decide)) hg) (.word (by decide))) hd.shown)
    (.word (by decide))

theorem laid_ifThen {t y n : Piece} (ht : t.Laid full) (hy : y.Laid full) (hn : n.Laid full) :
    Laid full True (.node (.ifThen t y n) m) := by
  refine ht.textOrEmpty fun g hg => hy.text fun h hh => ?_
  refine hn.markedOrEmpty (by decide) fun k hk => uniform_say ?_
  exact .then (.then (.then (.then (.opening (by decide)) hg) (.word (by decide))) hh) hk

theorem laid_forLoop {a t s b : Piece} (ha : a.Laid full) (ht : t.Laid full) (hs : s.Laid full)
    (hb : b.Laid full) : Laid full True (.node (.forLoop a t s b) m) := by
  refine ha.textOrEmpty fun g hg => ht.textOrEmpty fun h hh => hs.textOrEmpty fun k hk => ?_
  refine hb.text fun body hbody => uniform_say ?_
  refine .then (.then (.then (.then (.then (.then (.then (.opening (by decide)) hg) (.word ?_)) hh)
    (.word (by decide))) hk) (.word (by decide))) hbody
  split_ifs <;> decide

theorem laid_forIn {x s b : Piece} (hx : x.Laid full) (hs : s.Laid full) (hb : b.Laid full) :
    Laid full True (.node (.forIn x s b) m) := by
  refine uniform_bind hx fun d hd => uniform_bind hs fun e he => hb.text fun g hg => uniform_say ?_
  refine .then (.then (.then (.then (.then (.then (.opening (by decide)) (.word ?_)) hd.shown)
    (.word (by decide))) he.shown) (.word (by decide))) hg
  split_ifs <;> decide

theorem laid_tryDo {b c f : Piece} (hb : b.Laid full) (hc : c.Laid full) (hf : f.Laid full) :
    Laid full True (.node (.tryDo b c f) m) := by
  refine hb.text fun g hg => hc.markedOrEmpty (by decide) fun h hh => ?_
  refine hf.markedOrEmpty (by decide) fun k hk => uniform_say ?_
  exact .then (.then (.then (.opening (by decide)) hg) hh) hk

/-! Bodies -/

theorem laid_block {s : Seq} (hs : s.Laid full) : Laid full True (.node (.group .block s) m) := by
  have hbody : Uniform 2 2 (fun _ _ => do return present (← s.actions)) fun d =>
      ∃ xs, RunsLaid full xs ∧ d = fun _ _ => xs := by
    refine uniform_bind (uniform_actions hs) fun d hd => ?_
    obtain ⟨xs, hxs, rfl⟩ := hd
    exact uniform_pure ⟨_, runsLaid_present hxs, rfl⟩
  refine uniform_bind (uniform_indented hbody) fun d hd => ?_
  exact uniform_bind (uniform_braces hd) fun g hg => uniform_say hg

/-- What does not count as present is read as no parts, if it can be read at all. -/
theorem actions_of_absent {s : Seq} (hread : s = Seq.ofPiece s.host)
    (hs : s.host.isTruthy = false) : s.actions = pure [] ∨ s.actions = throw .wrongType := by
  rw [hread]
  generalize s.host = p at hs
  cases p with
  | atom a =>
    cases a with
    | text t =>
      have ht : t = "" := by simpa [Piece.isTruthy, Atom.isTruthy] using hs
      subst ht
      exact .inl rfl
    | _ => exact .inr rfl
  | record es =>
    have hes : es = [] := by simpa [Piece.isTruthy] using hs
    subst hes
    exact .inl rfl
  | items xs =>
    have hxs : xs = [] := by simpa [Piece.isTruthy] using hs
    subst hxs
    exact .inl rfl
  | node f m => exact absurd hs (by simp [Piece.isTruthy])

/-- Whether the closing brace has a line of its own depends on what stands in the place of the list,
the rows on the parts it is read as. -/
theorem laid_object {s : Seq} (hs : s.Laid full) (hread : s = Seq.ofPiece s.host) :
    Laid full True (.node (.object s) m) := by
  by_cases hhost : s.host.isTruthy = true
  · refine uniform_bind (uniform_bodyOf hs _) fun d hd => uniform_bind uniform_margin fun e he => ?_
    subst he
    simp only [hhost, if_true]
    exact uniform_say (hd.braced endsLine_comma opens_brace)
  · have hbody : Uniform 0 0 (fun _ _ => indented ",\n" s.actions) (· = fun _ _ => "") := by
      rcases actions_of_absent hread (by simpa using hhost) with h | h <;> rw [h]
      · exact .inr ⟨_, rfl, fun _ _ => rfl⟩
      · exact .inl ⟨_, fun _ _ => ⟨_, rfl⟩⟩
    refine uniform_bind hbody fun d hd => uniform_bind uniform_margin fun e he => ?_
    subst hd he
    have hopen : Layered full True fun _ _ => "\x7b" := .opening (by decide)
    have h := hopen.above (.opening (s := "\x7d") (by decide)) false 0 (fun h => absurd trivial h)
    have hlit : "\x7b\n" = "\x7b" ++ "\n" := by decide
    simp only [hhost, hlit, Bool.false_eq_true, if_false, String.append_empty]
    exact uniform_say (by simpa using h)

theorem laid_getter {n : Piece} {b : Seq} (hn : n.Laid full) (hb : b.Laid full) :
    Laid full True (.node (.getter n b) m) := by
  refine uniform_bind (uniform_bodyOf hb _) fun d hd => uniform_bind uniform_margin fun e he => ?_
  subst he
  refine uniform_bind hn fun e he => uniform_say (.wrap (hd.braced endsLine_break ?_) m)
  exact (Layered.then (.opening (by decide)) he.shown).opens
    (opens_word (t := "() \x7b") (by decide) (by decide))

theorem laid_setter {n : Piece} {ps b : Seq} (hn : n.Laid full) (hps : ps.Laid full)
    (hb : b.Laid full) : Laid full True (.node (.setter n ps b) m) := by
  have hrest : Uniform 0 0 (fun _ _ => do
      let params ← ps.actions
      if params.length > 1 then throw (.setterParameters (Form.quoted (.setter n ps b) m))
      let params ← list "," params
      let body ← indented "\n" b.actions
      let close ← margin
      let name ← n.render
      say (m.wrap ("set " ++ name.shown ++ "(" ++ params ++ ") \x7b\n" ++ body ++ "\n" ++ close
        ++ "\x7d"))) (Rendered full True) := by
    refine uniform_bind (uniform_actions hps) fun d hd => ?_
    obtain ⟨xs, hxs, rfl⟩ := hd
    refine uniform_ite (fun _ => uniform_bind (uniform_throw (j := 0) (D := fun _ => False)) nofun)
      fun _ => ?_
    refine uniform_bind (uniform_list (by decide) hxs) fun g hg => ?_
    refine uniform_bind (uniform_bodyOf hb _) fun d hd => uniform_bind uniform_margin fun e he => ?_
    subst he
    refine uniform_bind hn fun e he => uniform_say (.wrap (hd.braced endsLine_break ?_) m)
    exact (Layered.then (.then (.then (.opening (by decide)) he.shown) (.word (by decide))) hg).opens
      (opens_word (t := ") \x7b") (by decide) (by decide))
  cases ps with
  | spread host xs =>
    cases host with
    | node f m => exact uniform_throw
    | _ => exact hrest
  | _ => exact hrest

theorem laid_functionDecl {n : Piece} {ps b : Seq} (hn : n.Laid full) (hps : ps.Laid full)
    (hb : b.Laid full) : Laid full True (.node (.function .decl n ps b) m) := by
  refine uniform_bind (uniform_bodyOf hb _) fun d hd => uniform_bind hn fun e he => ?_
  refine uniform_bind (uniform_actions hps) fun x hx => ?_
  obtain ⟨xs, hxs, rfl⟩ := hx
  refine uniform_bind (uniform_list (by decide) hxs) fun g hg => ?_
  refine uniform_bind (uniform_braces hd) fun body hbody => uniform_say ?_
  exact .then (.then (.then (.then (.then (.opening (by decide)) he.shown) (.word (by decide))) hg)
    (.word (by decide))) hbody

theorem laid_functionExpr {n : Piece} {ps b : Seq} (hn : n.Laid full) (hps : ps.Laid full)
    (hb : b.Laid full) : Laid full True (.node (.function .expr n ps b) m) := by
  refine uniform_bind (uniform_bodyOf hb _) fun d hd => ?_
  have hrest : ∀ {h : Leveled}, Layered full False h → Uniform 0 0
      (fun unit level => do
        let params ← list ", " (← ps.actions)
        say (m.wrap ("function" ++ h unit level ++ "(" ++ params ++ ") "
          ++ (← braces (d unit level))))) (Rendered full True) := by
    intro h hh
    refine uniform_bind (uniform_actions hps) fun x hx => ?_
    obtain ⟨xs, hxs, rfl⟩ := hx
    refine uniform_bind (uniform_list (by decide) hxs) fun g hg => ?_
    refine uniform_bind (uniform_braces hd) fun body hbody => uniform_say (.wrap ?_ m)
    exact .then (.then (.then (.then (.then (.opening (by decide)) hh) (.word (by decide))) hg)
      (.word (by decide))) hbody
  refine uniform_ite (fun _ => ?_) fun _ => uniform_bind hn fun e he => ?_
  · exact uniform_bind (uniform_pure (Layered.imp (.word (by decide)) False.elim)) fun h hh => hrest hh
  · refine uniform_bind (uniform_pure ?_) fun h hh => hrest hh
    exact (Layered.then (.word (by decide)) he.shown).imp False.elim

/-- What stands in the place of a list, by its own form. -/
theorem uniform_host {s : Seq} (hs : s.Laid full) (hquoted : '\n' ∉ s.host.quoted.toList) :
    Uniform 0 0 (fun _ _ => s.renderHost) (Rendered full (full = true)) := by
  cases s with
  | items xs => exact (laid_unruled hquoted).imp fun _ hd => hd.imp fun _ => trivial
  | spread host xs => exact hs host (by simp [Seq.pieces])
  | single host => exact hs host (by simp [Seq.pieces])

theorem laid_catchDo {n : Piece} {b : Seq} (hn : n.Laid full) (hb : b.Laid full)
    (hquoted : '\n' ∉ b.host.quoted.toList) : Laid full True (.node (.catchDo n b) m) := by
  refine uniform_bind hn fun d hd => uniform_bind (uniform_host hb hquoted) fun e he => uniform_say ?_
  exact .then (.then (.then (.opening (by decide)) hd.shown) (.word (by decide))) he.shown

theorem laid_finallyDo {b : Seq} (hb : b.Laid full) (hquoted : '\n' ∉ b.host.quoted.toList) :
    Laid full True (.node (.finallyDo b) m) := by
  refine uniform_bind (uniform_host hb hquoted) fun e he => uniform_say ?_
  exact .then (.opening (by decide)) he.shown

/-! Switches -/

/-- A case as the lines before its last break. -/
def CaseLaid (full : Bool) (d : Leveled) : Prop :=
  ∃ h, Layered full True h ∧ d = fun unit level => h unit level ++ "\n"

/-- The default case; an empty body leaves an empty line. -/
def DefaultLaid (full : Bool) (d : Leveled) : Prop :=
  ∃ h, Layered full True h ∧ ∃ gap : Bool, d = fun unit level =>
    marginOf unit level ++ (h unit level ++ "\n" ++ if gap then "\n" else "")

theorem Layered.ne_empty {a : Prop} {g : Leveled} (hg : Layered full a g) (ha : a) (unit : String)
    (level : Nat) : g unit level ≠ "" := by
  obtain ⟨y, -, hopen, htext⟩ := hg
  have hfirst := hopen ha
  rw [htext]
  cases y with
  | last s => exact hfirst
  | line s gap depth next => simp [Layout.text]

/-- Without rows there is no text; rows go on the lines after an opening one. -/
theorem Indented.cases {d g : Leveled} (hd : Indented full "\n" d) (hg : Layered full True g) :
    (d = fun _ _ => "") ∨ (Layered full True fun unit level => g unit level ++ "\n" ++ d unit level) ∧
      (full = true → ∀ unit level, d unit level ≠ "") := by
  obtain ⟨hs, hhs, rfl⟩ := hd
  cases hs with
  | nil => exact .inl rfl
  | cons h hs =>
    refine .inr ⟨?_, fun hfull unit level => ?_⟩
    · have hrows := layered_rows hg (show '\n' ∉ "".toList by decide) (List.cons_ne_nil h hs) hhs
      simpa only [String.empty_append] using hrows
    · have hne := (hhs h (by simp)).ne_empty hfull unit (level + 2)
      cases hs with
      | nil => simp [hne]
      | cons h' hs => simp [String.intercalate_cons_cons, hne]

/-- An empty case ends with its test. The text of a body shows whether there is one. -/
theorem uniform_caseOf {e : Piece} {b : Seq} (he : e.Laid true) (hb : b.Laid true) :
    Uniform 0 0 (fun _ _ => (Piece.node (.caseOf e b) m).renderCase) (CaseLaid true) := by
  refine uniform_bind he fun d hd => uniform_bind (uniform_bodyOf hb _) fun body hbody => ?_
  have hopen : Layered true True fun unit level => "case " ++ (d unit level).shown ++ ":" :=
    .then (.then (.opening (by decide)) hd.shown) (.word (by decide))
  have hlit : ":\n" = ":" ++ "\n" := by decide
  refine uniform_pure ?_
  rcases hbody.cases hopen with rfl | ⟨hrows, hne⟩
  · exact ⟨_, hopen, by simp [caseText, hlit, String.append_assoc]⟩
  · refine ⟨_, hrows, ?_⟩
    funext unit level
    simp [caseText, hlit, hne rfl unit level, String.append_assoc]

theorem uniform_defaultOf {b : Seq} (hb : b.Laid full) :
    Uniform 0 0 (fun _ _ => do
      let m ← margin
      let body ← indented "\n" b.actions
      return m ++ "default:\n" ++ body ++ "\n") (DefaultLaid full) := by
  refine uniform_bind uniform_margin fun m hm => uniform_bind (uniform_bodyOf hb _) fun d hd => ?_
  subst hm
  have hopen : Layered full True fun _ _ => "default:" := .opening (by decide)
  have hlit : "default:\n" = "default:" ++ "\n" := by decide
  refine uniform_pure ?_
  rcases hd.cases hopen with rfl | ⟨hrows, -⟩
  · exact ⟨_, hopen, true, by simp [hlit, String.append_assoc]⟩
  · exact ⟨_, hrows, false, by simp [hlit, String.append_assoc]⟩

theorem uniform_cases {xs : List Item}
    (hxs : ∀ x ∈ xs, Uniform 0 0 (fun _ _ => x.asCase) (CaseLaid full)) :
    Uniform 0 0 (fun _ _ => Render.cases xs) fun d => ∃ hs : List Leveled,
      (∀ h ∈ hs, Layered full True h) ∧ d = fun unit level =>
        String.join (hs.map fun h => marginOf unit level ++ (h unit level ++ "\n")) := by
  have hcase : ∀ x ∈ xs, Uniform 0 0 (fun _ _ => do let m ← margin; return m ++ (← x.asCase))
      fun d => ∃ h, Layered full True h ∧
        d = fun unit level => marginOf unit level ++ (h unit level ++ "\n") := by
    intro x hx
    refine uniform_bind uniform_margin fun m hm => uniform_bind (hxs x hx) fun e he => ?_
    obtain ⟨h, hh, rfl⟩ := he
    subst hm
    exact uniform_pure ⟨h, hh, rfl⟩
  refine uniform_bind (uniform_mapM hcase) fun d hd => ?_
  obtain ⟨es, hes, rfl⟩ := hd
  obtain ⟨hs, hhs, rfl⟩ := exists_eq_map hes
  refine uniform_pure ⟨hs, hhs, ?_⟩
  simp only [List.map_map, Function.comp_def]

theorem uniform_caseActions {s : Seq}
    (h : ∀ p ∈ s.pieces, Uniform 0 0 (fun _ _ => p.renderCase) (CaseLaid full)) :
    Uniform i i (fun _ _ => s.actions) fun d => ∃ xs : List Item,
      (∀ x ∈ xs, Uniform 0 0 (fun _ _ => x.asCase) (CaseLaid full)) ∧ d = fun _ _ => xs := by
  have hof : ∀ ps : List Piece, (∀ p ∈ ps, p ∈ s.pieces) → ∀ x ∈ actionsOf ps,
      Uniform 0 0 (fun _ _ => x.asCase) (CaseLaid full) := by
    intro ps hps x hx
    induction ps with
    | nil => cases hx
    | cons p ps ih =>
      rcases List.mem_cons.1 hx with rfl | hx
      · exact h p (hps p (by simp))
      · exact ih (fun q hq => hps q (by simp [hq])) hx
  cases s with
  | items xs => exact uniform_pure ⟨_, hof xs fun _ hp => hp, rfl⟩
  | spread host xs => exact uniform_pure ⟨_, hof xs fun _ hp => List.mem_cons_of_mem _ hp, rfl⟩
  | single host => exact uniform_throw

theorem laid_switch {e d : Piece} {cs : Seq} (he : e.Laid full)
    (hcs : ∀ p ∈ cs.pieces, Uniform 0 0 (fun _ _ => p.renderCase) (CaseLaid full))
    (hd : Uniform 0 0 (fun _ _ => d.renderDefault) (DefaultLaid full)) :
    Laid full True (.node (.switch e cs d) m) := by
  refine uniform_bind he fun s hs => uniform_bind uniform_deeper fun _ _ => ?_
  refine uniform_bind (uniform_caseActions hcs) fun x hx => ?_
  obtain ⟨xs, hxs, rfl⟩ := hx
  refine uniform_bind ((uniform_cases hxs).shift 2) fun c hc => ?_
  obtain ⟨_, ⟨hs', hhs, rfl⟩, rfl⟩ := hc
  have hopen : Layered full True fun unit level => "switch (" ++ (s unit level).shown ++ ") \x7b" :=
    .then (.then (.opening (by decide)) hs.shown) (.word (by decide))
  have hclose : Layered full True fun _ _ => "\x7d" := .opening (by decide)
  obtain ⟨k, hk, hkt⟩ := layered_cases hopen hhs
  -- the lines so far end with a break; what follows them is the default and the closing brace
  have hrest : ∀ t : Leveled, (Layered full True fun unit level =>
        k unit level ++ "\n" ++ t unit level ++ marginOf unit level ++ "\x7d") →
      Uniform 2 0 (fun unit level => do
        shallower
        let close ← margin
        say ("switch (" ++ (s unit level).shown ++ ") \x7b\n" ++ String.join (hs'.map fun h =>
          marginOf unit (level + 2) ++ (h unit (level + 2) ++ "\n")) ++ t unit level ++ close
          ++ "\x7d")) (Rendered full True) := by
    intro t ht
    have hlit : ") \x7b\n" = ") \x7b" ++ "\n" := by decide
    refine uniform_bind uniform_shallower fun _ _ => uniform_bind uniform_margin fun m hm => ?_
    subst hm
    simp only [hkt, String.append_assoc] at ht
    simp only [hlit, String.append_assoc]
    exact uniform_say ht
  refine uniform_ite (fun _ => ?_) fun _ => ?_
  · refine uniform_bind (uniform_pure (D := (· = fun _ _ => "")) rfl) fun t ht => ?_
    subst ht
    refine hrest _ ?_
    have h := hk.above hclose false 0 (fun h => absurd trivial h)
    simpa using h
  · refine uniform_bind (hd.shift 2) fun t ht => ?_
    obtain ⟨_, ⟨h, hh, gap, rfl⟩, rfl⟩ := ht
    refine hrest _ ?_
    have hlast := (hk.above (hh.deepen 2) false 2 (fun h => absurd trivial h)).above hclose gap 0
      (fun h => absurd trivial h)
    simpa [String.append_assoc] using hlast

end Transpile.Script
