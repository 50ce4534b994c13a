import Transpile.Proofs.Layout.Lines
import Transpile.Proofs.Printing

/-! Rendering that depends on the level only through the layout. A rendering is uniform if it fails
alike at every level, or gives at every level what one description says. -/

namespace Transpile.Script

open Render

section

variable {α β : Type} {i j k : Nat}

theorem bind_of_error {w : Render α} {f : α → Render β} {unit : String} {level level' : Nat}
    {c : Cause} (h : w unit level = (.error c, level')) :
    (w >>= f) unit level = (.error c, level') := by
  have hrun : (w >>= f) unit level =
      ExceptT.bindCont (fun a => f a unit) (w unit level).1 (w unit level).2 := rfl
  rw [hrun, h]
  rfl

theorem bind_of_ok {w : Render α} {f : α → Render β} {unit : String} {level level' : Nat}
    {a : α} (h : w unit level = (.ok a, level')) : (w >>= f) unit level = f a unit level' := by
  have hrun : (w >>= f) unit level =
      ExceptT.bindCont (fun a => f a unit) (w unit level).1 (w unit level).2 := rfl
  rw [hrun, h]
  rfl

/-- `i` levels below any level the rendering fails with the same cause, or it gives what a
description as in `D` says and ends `j` levels below. -/
def Uniform (i j : Nat) (w : String → Nat → Render α) (D : (String → Nat → α) → Prop) : Prop :=
  (∃ c, ∀ unit level, ∃ level', w unit level unit (level + i) = (.error c, level')) ∨
    ∃ d, D d ∧ ∀ unit level, w unit level unit (level + i) = (.ok (d unit level), level + j)

theorem Uniform.imp {w : String → Nat → Render α} {D E : (String → Nat → α) → Prop}
    (hw : Uniform i j w D) (h : ∀ d, D d → E d) : Uniform i j w E :=
  Or.imp_right (fun ⟨d, hd, hrun⟩ => ⟨d, h d hd, hrun⟩) hw

theorem uniform_pure {a : String → Nat → α} {D : (String → Nat → α) → Prop} (h : D a) :
    Uniform i i (fun unit level => pure (a unit level)) D :=
  .inr ⟨a, h, fun _ _ => rfl⟩

theorem uniform_throw {c : Cause} {D : (String → Nat → α) → Prop} :
    Uniform i j (fun _ _ => throw c) D :=
  .inl ⟨c, fun _ _ => ⟨_, rfl⟩⟩

theorem uniform_bind {w : String → Nat → Render α} {f : String → Nat → α → Render β}
    {D : (String → Nat → α) → Prop} {E : (String → Nat → β) → Prop} (hw : Uniform i j w D)
    (hf : ∀ d, D d → Uniform j k (fun unit level => f unit level (d unit level)) E) :
    Uniform i k (fun unit level => w unit level >>= f unit level) E := by
  rcases hw with ⟨c, hfail⟩ | ⟨d, hd, hok⟩
  · refine .inl ⟨c, fun unit level => ?_⟩
    obtain ⟨level', h⟩ := hfail unit level
    exact ⟨level', bind_of_error h⟩
  · rcases hf d hd with ⟨c, hfail⟩ | ⟨e, he, hrun⟩
    · refine .inl ⟨c, fun unit level => ?_⟩
      obtain ⟨level', h⟩ := hfail unit level
      exact ⟨level', (bind_of_ok (hok unit level)).trans h⟩
    · exact .inr ⟨e, he, fun unit level => (bind_of_ok (hok unit level)).trans (hrun unit level)⟩

theorem uniform_ite {c : Prop} [Decidable c] {v w : String → Nat → Render α}
    {D : (String → Nat → α) → Prop} (hv : c → Uniform i j v D) (hw : ¬ c → Uniform i j w D) :
    Uniform i j (fun unit level => if c then v unit level else w unit level) D := by
  split_ifs with h
  · exact hv h
  · exact hw h

theorem Uniform.shift {w : Render α} {D : (String → Nat → α) → Prop}
    (hw : Uniform 0 0 (fun _ _ => w) D) (i : Nat) :
    Uniform i i (fun _ _ => w) fun d => ∃ e, D e ∧ d = fun unit level => e unit (level + i) := by
  rcases hw with ⟨c, hfail⟩ | ⟨e, he, hok⟩
  · exact .inl ⟨c, fun unit level => hfail unit (level + i)⟩
  · exact .inr ⟨_, ⟨e, he, rfl⟩, fun unit level => hok unit (level + i)⟩

theorem uniform_deeper : Uniform i (i + 2) (fun _ _ => deeper) fun _ => True :=
  .inr ⟨fun _ _ => (), trivial, fun _ _ => rfl⟩

theorem uniform_shallower : Uniform (i + 2) i (fun _ _ => shallower) fun _ => True :=
  .inr ⟨fun _ _ => (), trivial, fun _ _ => rfl⟩

theorem uniform_margin : Uniform 0 0 (fun _ _ => margin) (· = marginOf) :=
  .inr ⟨marginOf, rfl, fun _ _ => rfl⟩

theorem uniform_mapM {f : α → String → Nat → Render β} {as : List α}
    {D : (String → Nat → β) → Prop} (h : ∀ a ∈ as, Uniform 0 0 (f a) D) :
    Uniform 0 0 (fun unit level => as.mapM fun a => f a unit level) fun d =>
      ∃ es : List (String → Nat → β),
        (∀ e ∈ es, D e) ∧ d = fun unit level => es.map fun e => e unit level := by
  induction as with
  | nil => exact .inr ⟨_, ⟨[], by simp, rfl⟩, fun _ _ => rfl⟩
  | cons a as ih =>
    simp only [List.mapM_cons]
    refine uniform_bind (h a (by simp)) fun e he => ?_
    refine uniform_bind (ih fun b hb => h b (by simp [hb])) fun d hd => ?_
    obtain ⟨es, hes, rfl⟩ := hd
    exact .inr ⟨_, ⟨e :: es, by simpa using ⟨he, hes⟩, rfl⟩, fun _ _ => rfl⟩

theorem exists_eq_map {f : α → β} {bs : List β} {P : α → Prop} (h : ∀ b ∈ bs, ∃ a, P a ∧ b = f a) :
    ∃ as : List α, (∀ a ∈ as, P a) ∧ bs = as.map f := by
  induction bs with
  | nil => exact ⟨[], by simp, rfl⟩
  | cons b bs ih =>
    obtain ⟨a, ha, rfl⟩ := h b (by simp)
    obtain ⟨as, has, rfl⟩ := ih fun b hb => h b (by simp [hb])
    exact ⟨a :: as, by simpa using ⟨ha, has⟩, rfl⟩

end

/-! Pieces as results -/

section

variable {full : Bool} {a : Prop} {i : Nat}

/-- The results show as a layout. They are texts at every level, or one other piece at all. -/
structure Rendered (full : Bool) (opened : Prop) (d : String → Nat → Piece) : Prop where
  shown : Layered full opened fun unit level => (d unit level).shown
  kind : (∃ g : Leveled, d = fun unit level => .text (g unit level)) ∨
    ∃ v, (∀ s, v ≠ .text s) ∧ d = fun _ _ => v

theorem Rendered.imp {b : Prop} {d : String → Nat → Piece} (h : Rendered full a d) (hab : b → a) :
    Rendered full b d :=
  ⟨h.shown.imp hab, h.kind⟩

theorem uniform_say {g : Leveled} (hg : Layered full a g) :
    Uniform i i (fun unit level => say (g unit level)) (Rendered full a) :=
  .inr ⟨fun unit level => .text (g unit level), ⟨hg, .inl ⟨g, rfl⟩⟩, fun _ _ => rfl⟩

theorem uniform_textOf {d : String → Nat → Piece} (hd : Rendered full a d) :
    Uniform i i (fun unit level => textOf (d unit level)) (Layered full a) := by
  obtain ⟨hshown, ⟨g, rfl⟩ | ⟨v, hv, rfl⟩⟩ := hd
  · exact uniform_pure hshown
  · have hthrow : textOf v = throw .wrongType := by
      unfold textOf
      split
      · exact absurd rfl (hv _)
      · rfl
    simp only [hthrow]
    exact uniform_throw

/-- A piece that is no part of a rendering, as it stands. -/
theorem rendered_const {v : Piece} (hv : '\n' ∉ v.shown.toList) :
    Rendered full (v.shown ≠ "") fun _ _ => v := by
  refine ⟨.word hv, ?_⟩
  by_cases h : ∃ s, v = .text s
  · obtain ⟨s, rfl⟩ := h
    exact .inl ⟨fun _ _ => s, rfl⟩
  · exact .inr ⟨v, fun s hs => h ⟨s, hs⟩, rfl⟩

/-- The piece is rendered alike at all levels. -/
def Laid (full : Bool) (opened : Prop) (p : Piece) : Prop :=
  Uniform 0 0 (fun _ _ => p.render) (Rendered full opened)

/-! Items -/

def RunsLaid (full : Bool) (xs : List Item) : Prop :=
  ∀ x ∈ xs, Uniform 0 0 (fun _ _ => x.run) (Rendered full (full = true))

theorem uniform_list {sep : String} (hsep : '\n' ∉ sep.toList) {xs : List Item}
    (hxs : RunsLaid full xs) :
    Uniform 0 0 (fun _ _ => list sep xs) (Layered full False) := by
  refine uniform_bind (uniform_mapM hxs) fun d hd => ?_
  obtain ⟨es, hes, rfl⟩ := hd
  simp only [joined, List.mapM_map]
  refine uniform_bind (uniform_mapM fun e he => uniform_textOf (hes e he)) fun d hd => ?_
  obtain ⟨gs, hgs, rfl⟩ := hd
  exact uniform_pure (layered_intercalate hsep fun g hg => (hgs g hg).imp False.elim)

/-- Rows of text at the current level. -/
def Rows (full : Bool) (sep : String) (d : Leveled) : Prop :=
  ∃ hs : List Leveled, (∀ h ∈ hs, Layered full (full = true) h) ∧
    d = fun unit level => sep.intercalate (hs.map fun h => marginOf unit level ++ h unit level)

theorem uniform_lines {sep : String} {xs : List Item} (hxs : RunsLaid full xs) :
    Uniform 0 0 (fun _ _ => lines sep xs) (Rows full sep) := by
  have hline : ∀ x ∈ xs, Uniform 0 0
      (fun _ _ => do let m ← margin; return m ++ (← textOf (← x.run))) fun d =>
        ∃ h, Layered full (full = true) h ∧ d = fun unit level => marginOf unit level ++ h unit level := by
    intro x hx
    refine uniform_bind uniform_margin fun m hm => uniform_bind (hxs x hx) fun e he => ?_
    subst hm
    exact uniform_bind (uniform_textOf he) fun h hh => uniform_pure ⟨h, hh, rfl⟩
  refine uniform_bind (uniform_mapM hline) fun d hd => ?_
  obtain ⟨es, hes, rfl⟩ := hd
  obtain ⟨hs, hhs, rfl⟩ := exists_eq_map hes
  refine uniform_pure ⟨hs, hhs, ?_⟩
  simp only [List.map_map, Function.comp_def]

/-- Rows two levels deeper. -/
def Indented (full : Bool) (sep : String) (d : Leveled) : Prop :=
  ∃ hs : List Leveled, (∀ h ∈ hs, Layered full (full = true) h) ∧ d = fun unit level =>
    sep.intercalate (hs.map fun h => marginOf unit (level + 2) ++ h unit (level + 2))

theorem uniform_indented {sep : String} {w : Render (List Item)}
    (hw : Uniform 2 2 (fun _ _ => w) fun d => ∃ xs, RunsLaid full xs ∧ d = fun _ _ => xs) :
    Uniform 0 0 (fun _ _ => indented sep w) (Indented full sep) := by
  refine uniform_bind uniform_deeper fun _ _ => uniform_bind hw fun d hd => ?_
  obtain ⟨xs, hxs, rfl⟩ := hd
  refine uniform_bind ((uniform_lines hxs).shift 2) fun d hd => ?_
  obtain ⟨e, ⟨hs, hhs, rfl⟩, rfl⟩ := hd
  exact uniform_bind uniform_shallower fun _ _ => uniform_pure ⟨hs, hhs, rfl⟩

theorem uniform_cells {xs : List Item} (hxs : RunsLaid full xs) :
    Uniform 0 0 (fun _ _ => cells xs) (Layered full False) := by
  induction xs with
  | nil => exact uniform_pure (Layered.imp (.word (by decide)) False.elim)
  | cons x xs ih =>
    have hrest : ∀ {g : Leveled}, Layered full False g → Uniform 0 0
        (fun unit level => do let t ← cells xs; return g unit level ++ t) (Layered full False) :=
      fun hg => uniform_bind (ih fun y hy => hxs y (by simp [hy])) fun h hh => uniform_pure (hg.then hh)
    unfold cells
    split
    · exact hrest (Layered.imp (.word (by decide)) False.elim)
    · refine uniform_bind (hxs x (by simp)) fun e he => uniform_bind (uniform_textOf he) fun g hg => ?_
      refine hrest ?_
      split_ifs
      · exact hg.imp False.elim
      · exact (hg.then (.word (by decide))).imp False.elim

end

end Transpile.Script
