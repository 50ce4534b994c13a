import Transpile.Proofs.Closure.Rows
import Transpile.Proofs.Layout.Tree

/-! The text of a program. Rows are rendered to texts at every level, or fail alike at every level, so
the text of a wrapped program is that of the program itself with every line that holds something moved
two levels deeper. -/

namespace Transpile.Script

open Render

/-! Lines that are moved -/

/-- The text with the margin before every line that is not empty. -/
def deepened (m s : String) : String :=
  "\n".intercalate ((s.toList.splitOn '\n').map fun l => if l = [] then "" else m ++ String.ofList l)

theorem marginOf_zero (unit : String) : marginOf unit 0 = "" := rfl

theorem marginOf_add (unit : String) (i j : Nat) :
    marginOf unit (i + j) = marginOf unit i ++ marginOf unit j := by
  rw [← String.toList_inj]
  simp only [marginOf, String.toList_join, String.toList_append, List.replicate_add,
    List.flatMap_append]

theorem marginOf_eq_empty {unit : String} {i : Nat} (hi : 0 < i) (h : marginOf unit i = "")
    (j : Nat) : marginOf unit j = "" := by
  have hunit : unit = "" := by
    cases i with
    | zero => cases hi
    | succ i =>
      rw [Nat.add_comm, marginOf_add, String.append_eq_empty_iff] at h
      simpa [marginOf, String.join] using h.1
  subst hunit
  rw [← String.toList_inj]
  simp [marginOf, String.toList_join]

/-- A line that is moved: one that is empty at one level is empty at all. -/
theorem Line.at_moved {unit : String} {line : Line} (i : Nat)
    (hline : ∀ depth, line = .text depth "" → 0 < depth) :
    line.at unit i = if (line.at unit 0).toList = [] then "" else marginOf unit i ++ line.at unit 0 := by
  cases line with
  | blank => rfl
  | text depth s =>
    simp only [Line.at, Nat.zero_add, marginOf_add, String.append_assoc, String.toList_eq_nil_iff,
      String.append_eq_empty_iff]
    split_ifs with h
    · obtain ⟨hm, rfl⟩ := h
      have hempty := marginOf_eq_empty (hline depth rfl) hm
      simp [hempty]
    · rfl

theorem Layered.deepened {full : Bool} {g : Leveled} (hg : Layered full True g) {unit : String}
    (hunit : '\n' ∉ unit.toList) (i : Nat) :
    Script.deepened (marginOf unit i) (g unit 0) = marginOf unit i ++ g unit i := by
  obtain ⟨y, hy, hfirst, htext⟩ := hg
  have hne : y.first.toList ≠ [] := by simpa using hfirst trivial
  have hrest : ∀ line ∈ y.rest, line.at unit i =
      if (line.at unit 0).toList = [] then "" else marginOf unit i ++ line.at unit 0 := by
    refine fun line hline => line.at_moved i fun depth heq => ?_
    subst heq
    exact ((hy.lined.of_mem hline).2 rfl).2
  rw [htext, htext, Script.deepened, hy.splitOn_text hunit, Layout.text_eq, List.map_map,
    ← String.intercalate_cons_append, List.map_cons, List.map_map]
  simp only [Function.comp_def, hne, if_false, String.ofList_toList]
  rw [List.map_congr_left hrest]

/-- Rows one below the other make a text that is laid out. -/
theorem layered_stack {full : Bool} {gs : List Leveled} (hne : gs ≠ [])
    (hgs : ∀ g ∈ gs, Layered full True g) : ∃ k, Layered full True k ∧ ∀ unit level,
      marginOf unit level ++ k unit level =
        "\n".intercalate (gs.map fun g => marginOf unit level ++ g unit level) := by
  induction gs with
  | nil => exact absurd rfl hne
  | cons g gs ih =>
    have hg := hgs g (by simp)
    by_cases hnil : gs = []
    · subst hnil
      exact ⟨g, hg, fun _ _ => by simp⟩
    · obtain ⟨k, hk, htext⟩ := ih hnil fun h hh => hgs h (by simp [hh])
      obtain ⟨g', gs, rfl⟩ := List.exists_cons_of_ne_nil hnil
      refine ⟨_, hg.above hk false 0 fun h => absurd trivial h, fun unit level => ?_⟩
      have hrows := htext unit level
      rw [List.map_cons] at hrows
      rw [List.map_cons, List.map_cons, String.intercalate_cons_cons, ← hrows]
      simp [String.append_assoc]

/-! Rows as texts -/

/-- Every result of the rendering is a text. -/
def Says (w : Render Piece) : Prop :=
  ∀ unit level r level', w unit level = (.ok r, level') → ∃ s, r = .text s

theorem says_say (s : String) : Says (say s) := by
  intro unit level r level' h
  cases h
  exact ⟨s, rfl⟩

theorem says_bind {α : Type} {w : Render α} {f : α → Render Piece} (hf : ∀ a, Says (f a)) :
    Says (w >>= f) := by
  intro unit level r level' h
  rcases hw : w unit level with ⟨c | a, level''⟩
  · rw [bind_of_error hw] at h
    cases h
  · rw [bind_of_ok hw] at h
    exact hf a unit level'' r level' h

theorem says_ite {c : Prop} [Decidable c] {v w : Render Piece} (hv : Says v) (hw : Says w) :
    Says (if c then v else w) := by
  split_ifs
  · exact hv
  · exact hw

/-- The text of a part is used further, or an empty one in its place. -/
theorem says_textOrEmpty {p : Piece} {k : String → Render Piece} (hk : ∀ s, Says (k s)) :
    Says (if p.isAbsent then pure "" >>= k else do let s ← textOf (← p.render); k s) :=
  says_ite (says_bind hk) (says_bind fun _ => says_bind hk)

theorem says_markedOrEmpty {p : Piece} {mark : String} {k : String → Render Piece}
    (hk : ∀ s, Says (k s)) :
    Says (if p.isAbsent then pure "" >>= k else do
      let s ← textOf (← p.render)
      let t ← pure (mark ++ s)
      k t) :=
  says_ite (says_bind hk) (says_bind fun _ => says_bind fun _ => says_bind hk)

theorem says_row {p : Piece} (h : Walk.isRow p = true) : Says p.render := by
  unfold Walk.isRow at h
  split at h
  · split at h
    · exact says_bind fun _ => says_say _
    · exact says_ite (says_say _) (says_bind fun _ => says_say _)
    · exact says_bind fun _ => says_say _
    · exact says_ite (says_say _) (says_bind fun _ => says_say _)
    · exact says_ite (says_say _) (says_bind fun _ => says_say _)
    · refine says_textOrEmpty fun _ => says_bind fun _ => says_bind fun _ => ?_
      exact says_markedOrEmpty fun _ => says_say _
    · exact says_bind fun _ => says_bind fun _ => says_bind fun _ => says_say _
    · refine says_textOrEmpty fun _ => says_textOrEmpty fun _ => says_textOrEmpty fun _ => ?_
      exact says_bind fun _ => says_bind fun _ => says_say _
    · refine says_bind fun _ => says_bind fun _ => says_markedOrEmpty fun _ => ?_
      exact says_markedOrEmpty fun _ => says_say _
    · exact says_bind fun _ => says_bind fun _ => says_say _
    · cases h
  · cases h

/-- The piece is rendered to texts that are laid out, or fails alike at all levels. -/
def Piece.Said (p : Piece) : Prop :=
  Uniform 0 0 (fun _ _ => p.render) fun d =>
    ∃ g, Layered false True g ∧ d = fun unit level => .text (g unit level)

theorem said_row {p : Piece} (hrow : Walk.isRow p = true) (hp : p.Writable false) : p.Said := by
  have hlaid : Laid false True p := by
    cases hp with
    | @node f m hf hps =>
      have hfirm : f.isFirm = true := by cases f <;> first | rfl | cases hrow
      have hcase : (Piece.node f m).isCase = false := by cases f <;> first | rfl | cases hrow
      exact (laid_form hf hps (fun q hq => settled_of_writable (hps q hq)) hcase).imp fun _ => .inl hfirm
    | _ => cases hrow
  rcases hlaid with hfail | ⟨d, ⟨hshown, hkind⟩, hok⟩
  · exact .inl hfail
  · rcases hkind with ⟨g, rfl⟩ | ⟨v, hv, rfl⟩
    · exact .inr ⟨_, ⟨g, hshown, rfl⟩, hok⟩
    · obtain ⟨s, rfl⟩ := says_row hrow _ _ _ _ (hok "" 0)
      exact absurd rfl (hv s)

/-! Programs -/

/-- The rows and their texts at one level, each after its margin. -/
def rowTexts (xs : List Item) : Render (List String) :=
  xs.mapM fun x => do
    let m ← margin
    return m ++ (← textOf (← x.run))

/-- Rows fail alike whether they are rendered one after the other or line by line. -/
theorem run_rows {ps : List Piece} (hps : ∀ p ∈ ps, p.Said) :
    (∃ c, ∀ unit level, (∃ level', each (actionsOf ps) unit level = (.error c, level')) ∧
      ∃ level', rowTexts (actionsOf ps) unit level = (.error c, level')) ∨
    ∃ gs : List Leveled, (∀ g ∈ gs, Layered false True g) ∧ ∀ unit level,
      each (actionsOf ps) unit level = (.ok (gs.map fun g => .text (g unit level)), level) ∧
      rowTexts (actionsOf ps) unit level =
        (.ok (gs.map fun g => marginOf unit level ++ g unit level), level) := by
  induction ps with
  | nil => exact .inr ⟨[], by simp, fun _ _ => ⟨rfl, rfl⟩⟩
  | cons p ps ih =>
    have heach : each (actionsOf (p :: ps)) = (do
        let q ← p.render
        let qs ← each (actionsOf ps)
        pure (q :: qs)) := by rw [each, actionsOf, List.mapM_cons]; rfl
    have htexts : rowTexts (actionsOf (p :: ps)) = (do
        let m ← margin
        let q ← p.render
        let s ← textOf q
        let ss ← rowTexts (actionsOf ps)
        pure ((m ++ s) :: ss)) := by
      rw [rowTexts, actionsOf, List.mapM_cons]
      simp only [bind_assoc, pure_bind]
      rfl
    have hmargin (unit : String) (level : Nat) :
        margin unit level = (.ok (marginOf unit level), level) := rfl
    rw [heach, htexts]
    rcases hps p (by simp) with ⟨c, hfail⟩ | ⟨_, ⟨g, hg, rfl⟩, hok⟩
    · refine .inl ⟨c, fun unit level => ?_⟩
      obtain ⟨level', h⟩ := hfail unit level
      exact ⟨⟨level', bind_of_error h⟩, level', (bind_of_ok (hmargin unit level)).trans
        (bind_of_error h)⟩
    have hfirst (unit : String) (level : Nat) : p.render unit level = (.ok (.text (g unit level)), level) :=
      hok unit level
    have htext (unit : String) (level : Nat) : textOf (.text (g unit level)) unit level =
        (.ok (g unit level), level) := rfl
    rcases ih fun q hq => hps q (by simp [hq]) with ⟨c, hfail⟩ | ⟨gs, hgs, hrest⟩
    · refine .inl ⟨c, fun unit level => ?_⟩
      obtain ⟨⟨l1, h1⟩, l2, h2⟩ := hfail unit level
      refine ⟨⟨l1, (bind_of_ok (hfirst unit level)).trans (bind_of_error h1)⟩, l2, ?_⟩
      rw [bind_of_ok (hmargin unit level), bind_of_ok (hfirst unit level), bind_of_ok (htext unit level)]
      exact bind_of_error h2
    · refine .inr ⟨g :: gs, List.forall_mem_cons.2 ⟨hg, hgs⟩, fun unit level => ?_⟩
      obtain ⟨h1, h2⟩ := hrest unit level
      constructor
      · rw [bind_of_ok (hfirst unit level), bind_of_ok h1]
        rfl
      · rw [bind_of_ok (hmargin unit level), bind_of_ok (hfirst unit level),
          bind_of_ok (htext unit level), bind_of_ok h2]
        rfl

theorem render_bare {body : List Piece} (hbody : ∀ p ∈ body, p.isAbsent = false) :
    (Walk.wrapProgram false body).render = (do
      let ps ← each (actionsOf body)
      let ss ← ps.mapM textOf
      say ("\n".intercalate ss)) := by
  have hrender : (Walk.wrapProgram false body).render = (do
      say (← list "\n" (present (actionsOf body)))) := rfl
  simp only [hrender, present_actionsOf hbody, list, joined, bind_assoc, pure_bind]

/-- A program of one row is rendered as the row. -/
theorem render_oneRow {p : Piece} (hp : p.isAbsent = false) {w : Render String}
    (h : p.render = w >>= say) : (Walk.wrapProgram false [p]).render = w >>= say := by
  have heach : each (actionsOf [p]) = (do return [← p.render]) := rfl
  rw [render_bare (by simpa using hp), heach, h]
  simp only [bind_assoc, pure_bind, say, List.mapM_cons, List.mapM_nil, textOf,
    String.intercalate_singleton]
  rfl

/-- The text of a function of the rows that takes nothing, in parentheses. -/
def thunkText (body : List Piece) : Render String := do
  deeper
  let ss ← rowTexts (actionsOf body)
  shallower
  let m ← margin
  return "(function() \x7b\n" ++ "\n".intercalate ss ++ "\n" ++ m ++ "\x7d)"

theorem render_thunk (body : List Piece) :
    (Form.function .expr .absent (.items []) (.items body)).piece.inParens.render =
      thunkText body >>= say := by
  have htext (b m : String) : "(" ++ ("function" ++ "" ++ "(" ++ "" ++ ") " ++
      ("\x7b\n" ++ b ++ "\n" ++ m ++ "\x7d")) ++ ")" =
        "(function() \x7b\n" ++ b ++ "\n" ++ m ++ "\x7d)" := by
    rw [← String.toList_inj]
    simp
  have hbody : indented "\n" (pure (actionsOf body)) = (do
      deeper
      let ss ← rowTexts (actionsOf body)
      shallower
      return "\n".intercalate ss) := by
    simp only [indented, lines, rowTexts, bind_assoc, pure_bind]
  have hrender : (Form.function .expr .absent (.items []) (.items body)).piece.inParens.render = (do
      let b ← indented "\n" (pure (actionsOf body))
      let s ← braces b
      say ("(" ++ ("function" ++ "" ++ "(" ++ "" ++ ") " ++ s) ++ ")")) := rfl
  rw [hrender, hbody]
  simp only [thunkText, braces, bind_assoc, pure_bind, htext]

/-- A statement that calls the form at once. -/
theorem render_called {f : Piece} {w : Render String} (hf : f.render = w >>= say) :
    (Walk.statement (Walk.callOf (Walk.dot f "call") [Form.this.piece])).render =
      (do return (← w) ++ ".call(this);") >>= say := by
  have hdot : (Walk.dot f "call").render = (do
      let p ← f.render
      say (p.shown ++ "." ++ "call")) := rfl
  have hcall : (Walk.callOf (Walk.dot f "call") [Form.this.piece]).render = (do
      let p ← (Walk.dot f "call").render
      say (p.shown ++ "(" ++ "this" ++ ")")) := rfl
  have hstatement : (Walk.statement (Walk.callOf (Walk.dot f "call") [Form.this.piece])).render = (do
      let p ← (Walk.callOf (Walk.dot f "call") [Form.this.piece]).render
      say (p.shown ++ ";")) := rfl
  have htext (s : String) : s ++ "." ++ "call" ++ "(" ++ "this" ++ ")" ++ ";" =
      s ++ ".call(this);" := by
    simp only [String.append_assoc]
    rfl
  simp only [hstatement, hcall, hdot, hf, bind_assoc, pure_bind, say, Piece.shown, Atom.shown, htext]

theorem render_closure (body : List Piece) :
    (Walk.wrapProgram true body).render =
      (do return (← thunkText body) ++ ".call(this);") >>= say :=
  render_oneRow rfl (render_called (render_thunk body))

theorem mapM_textOf {α : Type} (f : α → String) (as : List α) :
    (as.map fun a => Piece.text (f a)).mapM textOf = (pure (as.map f) : Render (List String)) := by
  induction as with
  | nil => rfl
  | cons a as ih => simp only [List.map_cons, List.mapM_cons, textOf, ih, pure_bind]

/-- The text of a program inside the function that holds it, two levels deeper. -/
def enclosed (width : Int) (s : String) : String :=
  "(function() \x7b\n" ++ deepened (String.ofList (List.replicate (2 * width.toNat) ' ')) s ++
    "\n\x7d).call(this);"

theorem marginOf_unitOf_two (width : Int) :
    marginOf (unitOf width) 2 = String.ofList (List.replicate (2 * width.toNat) ' ') := by
  rw [← String.toList_inj]
  simp [marginOf, unitOf, Nat.two_mul, List.replicate]

theorem deepened_stack {gs : List Leveled} (hgs : ∀ g ∈ gs, Layered false True g) (width : Int) :
    deepened (marginOf (unitOf width) 2) ("\n".intercalate (gs.map fun g => g (unitOf width) 0)) =
      "\n".intercalate (gs.map fun g => marginOf (unitOf width) 2 ++ g (unitOf width) 2) := by
  by_cases hne : gs = []
  · subst hne
    simp [deepened]
  · have hunit : '\n' ∉ (unitOf width).toList := by simp [unitOf, List.mem_replicate]
    obtain ⟨k, hk, htext⟩ := layered_stack hne hgs
    have hbare := htext (unitOf width) 0
    simp only [marginOf_zero, String.empty_append] at hbare
    rw [← hbare, hk.deepened hunit, htext]

/-- A program fails whether or not it is wrapped, or its text when it is wrapped is its text without
that inside the function. -/
theorem renderAt_wrapProgram {body : List Piece}
    (hbody : ∀ p ∈ body, Walk.isRow p = true ∧ p.Writable false) (width : Int) :
    (∃ c, ∀ closure, ((Walk.wrapProgram closure body).renderAt width 0).1 = .error c) ∨
    ∃ s, ((Walk.wrapProgram false body).renderAt width 0).1 = .ok (.text s) ∧
      ((Walk.wrapProgram true body).renderAt width 0).1 = .ok (.text (enclosed width s)) := by
  have hpresent : ∀ p ∈ body, p.isAbsent = false := fun p hp => by
    obtain ⟨hrow, -⟩ := hbody p hp
    cases p with
    | node f m => rfl
    | _ => cases hrow
  have hunit : String.ofList (List.replicate width.toNat ' ') = unitOf width := rfl
  have hdeeper (unit : String) : deeper unit 0 = (.ok (), 2) := rfl
  have hshallower (unit : String) : shallower unit 2 = (.ok (), 0) := rfl
  have hmargin (unit : String) : margin unit 0 = (.ok "", 0) := rfl
  simp only [Piece.renderAt, Bool.forall_bool, render_bare hpresent, render_closure, thunkText,
    bind_assoc, pure_bind, hunit]
  rcases run_rows fun p hp => said_row (hbody p hp).1 (hbody p hp).2 with ⟨c, hfail⟩ | ⟨gs, hgs, hok⟩
  · refine .inl ⟨c, ?_, ?_⟩
    · obtain ⟨⟨_, h⟩, -⟩ := hfail (unitOf width) 0
      rw [bind_of_error h]
    · obtain ⟨-, _, h⟩ := hfail (unitOf width) 2
      rw [bind_of_ok (hdeeper _), bind_of_error h]
  · refine .inr ⟨"\n".intercalate (gs.map fun g => g (unitOf width) 0), ?_, ?_⟩
    · rw [bind_of_ok (hok _ 0).1, mapM_textOf, pure_bind]
      rfl
    · have htext (b : String) : "(function() \x7b\n" ++ b ++ "\n" ++ "" ++ "\x7d)" ++ ".call(this);" =
          "(function() \x7b\n" ++ b ++ "\n\x7d).call(this);" := by
        simp only [String.append_assoc]
        rfl
      have henclosed (s : String) : enclosed width s =
          "(function() \x7b\n" ++ deepened (marginOf (unitOf width) 2) s ++
            "\n\x7d).call(this);" := by
        rw [marginOf_unitOf_two]
        rfl
      simp only [henclosed, deepened_stack hgs, bind_of_ok (hdeeper _), bind_of_ok (hok _ 2).2,
        bind_of_ok (hshallower _), bind_of_ok (hmargin _), htext]
      rfl

end Transpile.Script
