import Transpile.Compile
import Transpile.Proofs.Closure.Text
import Transpile.Proofs.Rendering.Placed
import Transpile.Proofs.Source.Programs

/-! Programs as closures. A program compiled as a closure gives what it gives without that, two levels
deeper inside a function: stated of all trees of programs, wherever the forms that are made of them
stand, and of source texts. -/

namespace Transpile

namespace Walk

open Script

/-- Forms that rules make and atoms of one line, without and with the wrapping of programs. -/
def unbroken (o : Options) : Supply where
  o := { o with closure := false }
  o' := { o with closure := true }
  camelCase := rfl
  debug := rfl
  F f := f.isMade = true ∨ ∃ v, f = .leaf .ident v
  A a := '\n' ∉ a.shown.toList
  made _ hf := .inl hf
  fixed _ _ := .inr ⟨_, rfl⟩
  named _ v _ := .inr ⟨v, rfl⟩
  camel _ _ hs := ⟨.inr ⟨_, rfl⟩, fun h => hs (Text.mem_camel Text.isMark_break h)⟩
  none := by decide
  flag b := by cases b <;> decide
  line _ hs := hs
  shown _ ha := ha
  append s t hs ht := by simpa [Atom.shown] using ⟨hs, ht⟩

section

variable {o : Options} {p : Piece}

theorem isCase_of_fine (h : (unbroken o).Fine p) : p.isCase = false := by
  cases h with
  | @node f m hf hps =>
    rcases hf with hf | ⟨v, rfl⟩
    · cases f <;> first | rfl | cases hf
    · rfl
  | _ => rfl

theorem writable_of_made {f : Form} (hf : f.isMade = true ∨ ∃ v, f = .leaf .ident v)
    (hps : ∀ q ∈ f.pieces, q.isCase = false) : f.Writable false := by
  refine ⟨?_, ?_, ?_, .inr ?_⟩
  · rintro s rfl
    rcases hf with hf | ⟨v, hv⟩
    · cases hf
    · cases hv
  · unfold Form.PlacesCases
    split
    · rcases hf with hf | ⟨v, hv⟩
      · cases hf
      · cases hv
    · exact hps
  · rintro s rfl
    cases s with
    | items xs => rfl
    | _ => rcases hf with hf | ⟨v, hv⟩ <;> contradiction
  · rintro e cs d rfl
    rcases hf with hf | ⟨v, hv⟩
    · cases hf
    · cases hv

theorem writable_of_fine (h : (unbroken o).Fine p) : p.Writable false := by
  induction h with
  | atom ha => exact .atom ⟨ha, nofun⟩
  | record hes => exact .record fun e he => ⟨hes e he, nofun⟩
  | items _ ih => exact .items ih
  | node hf hps ih => exact .node (writable_of_made hf fun q hq => isCase_of_fine (hps q hq)) ih

/-! Rows at addresses -/

theorem isRow_placed (p : Piece) (π : Placement) : isRow (p.placed π) = isRow p := by
  cases p with
  | node f m =>
    cases f with
    | group k => cases k <;> rfl
    | _ => rfl
  | _ => rfl

theorem made_placed (f : Form) (π : Placement) (hf : f.isMade = true ∨ ∃ v, f = .leaf .ident v) :
    (f.placed π).isMade = true ∨ ∃ v, f.placed π = .leaf .ident v := by
  rcases hf with hf | ⟨v, rfl⟩
  · left
    cases f with
    | leaf k | group k => cases k <;> exact hf
    | object s => cases s <;> exact hf
    | _ => exact hf
  · exact .inr ⟨_, rfl⟩

/-- The forms of a program but the rows and what is in them show no address. -/
theorem render_placed (closure : Bool) (body : List Piece) (π : Placement) :
    ∃ ρ, ((wrapProgram closure body).placed π).render =
      (wrapProgram closure (placedAll ρ body)).render := by
  cases closure <;> exact ⟨_, rfl⟩

/-- Every placement of rows is that of the program that holds them. -/
theorem render_bare_placed (body : List Piece) (ρ : Placement) :
    (wrapProgram false (placedAll ρ body)).render =
      ((wrapProgram false body).placed fun path => ρ path.tail).render := rfl

theorem twin_bare {body : List Piece} (hbody : ∀ p ∈ body, (unbroken o).Fine p) (π π' : Placement) :
    Twin Like ((wrapProgram false body).placed π).render
      ((wrapProgram false body).placed π').render := by
  have hsetter : ∀ n ps b, ¬ (unbroken o).F (.setter n ps b) := by
    rintro n ps b (h | ⟨v, hv⟩)
    · cases h
    · cases hv
  have hrows : (Seq.placed (π.at 0) (.items body)).Pair (Seq.placed (π'.at 0) (.items body)) :=
    pair_seq fun p hp ρ ρ' => (hbody p hp).pair hsetter ρ ρ'
  exact twin_group hrows (Form.alike_quoted (.group .program (.items body)) {} π π')

/-- A program at any addresses fails whether or not it is wrapped, or its text when it is wrapped is a
text of it without that inside the function; and such texts are alike. -/
theorem renderAt_placed {body : List Piece}
    (hbody : ∀ p ∈ body, isRow p = true ∧ (unbroken o).Fine p) (width : Int) (π π' : Placement) :
    (∃ c, (((wrapProgram false body).placed π).renderAt width 0).1 = .error c ∧
      (((wrapProgram true body).placed π').renderAt width 0).1 = .error c) ∨
    ∃ b b', (((wrapProgram false body).placed π).renderAt width 0).1 = .ok (.text b) ∧
      (((wrapProgram true body).placed π').renderAt width 0).1 = .ok (.text (enclosed width b')) ∧
      Alike b b' ∧ ∃ ρ, (((wrapProgram false body).placed ρ).renderAt width 0).1 = .ok (.text b') := by
  obtain ⟨ρ, hclosure⟩ := render_placed true body π'
  have hrows : ∀ p ∈ placedAll ρ body, isRow p = true ∧ p.Writable false :=
    forall_placedAll fun p hp ρ => ⟨(isRow_placed p ρ).trans (hbody p hp).1,
      writable_of_fine ((hbody p hp).2.placed made_placed ρ)⟩
  have htwin := twin_bare (fun p hp => (hbody p hp).2) π (fun path => ρ path.tail)
    (String.ofList (List.replicate width.toNat ' ')) 0
  have hwrap := renderAt_wrapProgram hrows width
  simp only [Piece.renderAt, Bool.forall_bool, hclosure, render_bare_placed] at hwrap ⊢
  rcases hwrap with ⟨c, hbare, hclosed⟩ | ⟨s, hbare, hclosed⟩
  · rcases htwin with ⟨c', _, hpi, hrho⟩ | ⟨_, _, _, _, hrho, _⟩
    · rw [hrho] at hbare
      cases hbare
      exact .inl ⟨c, by rw [hpi], hclosed⟩
    · rw [hrho] at hbare
      cases hbare
  · rcases htwin with ⟨_, _, _, hrho⟩ | ⟨r, _, _, hpi, hrho, hlike⟩
    · rw [hrho] at hbare
      cases hbare
    · have hwhere := hbare
      rw [hrho] at hbare
      cases hbare
      cases hlike with
      | text h => exact .inr ⟨_, s, by rw [hpi], hclosed, h, _, hwhere⟩
      | other _ hother => exact absurd rfl (hother s)

end

end Walk

def Settings.withClosure (s : Settings) (closure : Bool) : Settings :=
  { s with walk := { s.walk with closure } }

/-- The text of a script tree. -/
def Settings.write (s : Settings) (p : Script.Piece) : Except Cause Script.Piece := do
  Script.checkWidth s.indent
  (p.renderAt s.indent 0).1

/-- The text of a source tree, with the forms of the script tree at the given addresses. -/
def Settings.writeTree (s : Settings) (π : Script.Placement) (t : Source.Tree) :
    Except Cause Script.Piece := do
  let p ← (Walk.run (Walk.visit t) s.walk {}).1
  s.write (p.placed π)

/-- The walk of a program makes its rows, and then wraps them as it is told to. -/
theorem run_visit_rows (o : Walk.Options) {ts : List Source.Tree}
    (hts : ∀ t ∈ ts, Walk.isStatementTree t = true)
    (hatoms : ∀ a ∈ Source.Tree.atomsAll ts, '\n' ∉ a.shown.toList) :
    ∃ rows : Except Cause (List Script.Piece),
      (∀ closure, (Walk.run (Walk.visit (.node .module [.list ts])) { o with closure } {}).1 =
        rows.map (Walk.wrapProgram closure)) ∧
      ∀ body, rows = .ok body → ∀ p ∈ body, Walk.isRow p = true ∧ (Walk.unbroken o).Fine p := by
  obtain ⟨rows, hbare, hclosure, hrows⟩ := Walk.run_visit_program (σ := Walk.unbroken o) hts hatoms
    Walk.ready_start (Walk.unbroken o).stocked_start
  exact ⟨rows, Bool.forall_bool.2 ⟨hbare, hclosure⟩, hrows⟩

/-- A program whose atoms stand in one line each fails to compile for one cause, as a closure and
without that, or its text as a closure is its text without that inside a function. A form that is shown
in the text may stand at another address in each run: but for addresses the two texts are the same, and
the text inside the function is one that the program has without that, at some addresses. -/
theorem program_closure (s : Settings) {ts : List Source.Tree}
    (hts : ∀ t ∈ ts, Walk.isStatementTree t = true)
    (hatoms : ∀ a ∈ Source.Tree.atomsAll ts, '\n' ∉ a.shown.toList) (π π' : Script.Placement) :
    (∃ c, (s.withClosure false).writeTree π (.node .module [.list ts]) = .error c ∧
      (s.withClosure true).writeTree π' (.node .module [.list ts]) = .error c) ∨
    ∃ b b', (s.withClosure false).writeTree π (.node .module [.list ts]) = .ok (.text b) ∧
      (s.withClosure true).writeTree π' (.node .module [.list ts]) =
        .ok (.text (Script.enclosed s.indent b')) ∧
      Script.Alike b b' ∧ (¬ " at 0x".toList <:+: b.toList → b = b') ∧
      ∃ ρ, (s.withClosure false).writeTree ρ (.node .module [.list ts]) = .ok (.text b') := by
  obtain ⟨rows, hrun, hrows⟩ := run_visit_rows s.walk hts hatoms
  have hwrite (closure : Bool) (ρ : Script.Placement) :
      (s.withClosure closure).writeTree ρ (.node .module [.list ts]) = (do
        let p ← rows.map (Walk.wrapProgram closure)
        s.write (p.placed ρ)) := by
    rw [← hrun closure]
    rfl
  simp only [hwrite, Settings.write]
  cases rows with
  | error c => exact .inl ⟨c, rfl, rfl⟩
  | ok body =>
    cases Script.checkWidth s.indent with
    | error c => exact .inl ⟨c, rfl, rfl⟩
    | ok _ =>
      rcases Walk.renderAt_placed (hrows body rfl) s.indent π π' with
        hfails | ⟨b, b', hbare, hclosure, halike, hwhere⟩
      · exact .inl hfails
      · exact .inr ⟨b, b', hbare, hclosure, halike, halike.eq_of_plain, hwhere⟩

/-- Comparisons by an operator that has no text, two in a row: the middle operand stands for it. -/
def memberships : List Source.Tree :=
  [.node .exprStmt [.node .compare [.node .num [.atom (.number "1")],
    .list [.node (.op .isIn) [], .node (.op .isIn) []],
    .list [.node .num [.atom (.number "2")], .node .num [.atom (.number "3")]]]]]

theorem memberships_closure :
    (∀ t ∈ memberships, Walk.isStatementTree t = true) ∧
    (∀ a ∈ Source.Tree.atomsAll memberships, '\n' ∉ a.shown.toList) ∧
    ∃ b b', (Settings.withClosure {} false).writeTree (fun _ => 1) (.node .module [.list memberships]) =
        .ok (.text b) ∧
      (Settings.withClosure {} true).writeTree (fun _ => 2) (.node .module [.list memberships]) =
        .ok (.text (Script.enclosed 2 b')) ∧
      Script.Alike b b' ∧ b = "1 <cobra.ast.Number object at 0x1> 3;" := by
  have hstatements : ∀ t ∈ memberships, Walk.isStatementTree t = true := by decide
  have hatoms : ∀ a ∈ Source.Tree.atomsAll memberships, '\n' ∉ a.shown.toList := by decide
  have hshown : ((Settings.withClosure {} false).writeTree (fun _ => 1)
      (.node .module [.list memberships])).toOption.map Script.Piece.shown =
        some "1 <cobra.ast.Number object at 0x1> 3;" := by
    decide +kernel
  refine ⟨hstatements, hatoms, ?_⟩
  rcases program_closure {} hstatements hatoms (fun _ => 1) (fun _ => 2) with
    ⟨c, hfails, -⟩ | ⟨b, b', hb, hb', halike, -⟩
  · rw [hfails] at hshown
    cases hshown
  · rw [hb] at hshown
    exact ⟨b, b', hb, hb', halike, Option.some.inj hshown⟩

/-! Source texts -/

/-- The string literals of a source text. -/
def literals (source : String) : List String :=
  ((Source.tokens? source).getD []).filterMap fun t => match t.tok with
    | .string s => some s
    | _ => none

theorem mem_literals {source : String} {ts : List Source.Token} (h : Source.tokens? source = some ts)
    {t : Source.Token} (ht : t ∈ ts) {s : String} (hs : t.tok = .string s) : s ∈ literals source := by
  rw [literals, h]
  exact List.mem_filterMap.2 ⟨t, ht, by rw [hs]⟩

theorem compile_result (s : Settings) (source : String) :
    (compile s source).result = (do
      let p ← (Walk.run (walkSource s.shape (Text.normalize source)) s.walk {}).1
      s.write p) := by
  unfold compile
  generalize Walk.run (walkSource s.shape (Text.normalize source)) s.walk {} = r
  cases r
  rfl

theorem parse?_of_readSource {shape : Source.Shape} {source : String} {t : Source.Tree}
    (h : readSource shape source = .ok t) : Source.parse? shape source = some t := by
  unfold readSource at h
  split_ifs at h
  split at h
  · cases h
    assumption
  · cases h

/-- The walk of a source text makes the rows of its program, and then wraps them as it is told to. -/
theorem run_walkSource (shape : Source.Shape) (o : Walk.Options) {source : String}
    (h : ∀ l ∈ literals source, '\n' ∉ l.toList) :
    ∃ rows : Except Cause (List Script.Piece),
      (∀ closure, (Walk.run (walkSource shape source) { o with closure } {}).1 =
        rows.map (Walk.wrapProgram closure)) ∧
      ∀ body, rows = .ok body → ∀ p ∈ body, Walk.isRow p = true ∧ (Walk.unbroken o).Fine p := by
  unfold walkSource
  cases hread : readSource shape source with
  | error c => exact ⟨.error c, fun _ => rfl, nofun⟩
  | ok t =>
    obtain ⟨ts, rfl, hts⟩ := Source.parse?_eq (parse?_of_readSource hread)
      fun _ htokens _ hu _ hs => h _ (mem_literals htokens hu hs)
    have hatoms : ∀ a ∈ Source.Tree.atomsAll ts, '\n' ∉ a.shown.toList := by
      intro a ha
      obtain ⟨u, hu, hau⟩ := Source.exists_of_mem_atomsAll ha
      exact (hts u hu).part.unbroken a hau
    exact run_visit_rows o (fun u hu => (hts u hu).isStatementTree) hatoms

/-- A text whose string literals stand in one line each fails to compile for one cause, as a closure
and without that, or its text as a closure is its text without that inside a function. No address is
known here, and none is shown. -/
theorem compile_closure (s : Settings) (source : String)
    (h : ∀ l ∈ literals (Text.normalize source), '\n' ∉ l.toList) :
    (∃ c, ∀ closure, (compile (s.withClosure closure) source).result = .error c) ∨
    ∃ b, (compile (s.withClosure false) source).result = .ok (.text b) ∧
      (compile (s.withClosure true) source).result = .ok (.text (Script.enclosed s.indent b)) := by
  obtain ⟨rows, hrun, hrows⟩ := run_walkSource s.shape s.walk h
  have hresult : ∀ closure, (compile (s.withClosure closure) source).result = (do
      let p ← rows.map (Walk.wrapProgram closure)
      s.write p) := fun closure => by
    rw [compile_result, ← hrun closure]
    rfl
  simp only [hresult, Settings.write]
  cases rows with
  | error c => exact .inl ⟨c, fun _ => rfl⟩
  | ok body =>
    cases Script.checkWidth s.indent with
    | error c => exact .inl ⟨c, fun _ => rfl⟩
    | ok _ =>
      refine Script.renderAt_wrapProgram (fun p hp => ?_) s.indent
      exact ⟨(hrows body rfl p hp).1, Walk.writable_of_fine (hrows body rfl p hp).2⟩

end Transpile
