import Transpile.Proofs.Breaks
import Transpile.Proofs.Layout.Forms

/-! Layouts of trees. A tree whose texts hold no breaks is rendered, wherever it starts and however
wide a level is, as the same lines at the same depths. -/

namespace Transpile

theorem Atom.break_notMem_quoted {a : Atom} (h : '\n' ∉ a.shown.toList) : '\n' ∉ a.quoted.toList := by
  cases a with
  | text s => exact Text.break_notMem_quoted s
  | _ => exact h

namespace Script

open Render

theorem Form.break_notMem_quoted (f : Form) (m : Marks) : '\n' ∉ (f.quoted m).toList :=
  fun h => absurd (List.all_eq_true.1 (f.isLabelChar_quoted m) _ h) (by decide)

/-- One line, which is not empty if texts have to be `full`. -/
def IsLine (full : Bool) (s : String) : Prop := '\n' ∉ s.toList ∧ (full = true → s ≠ "")

/-- What forms show of the pieces that they do not render stands in one line. -/
theorem Piece.All.break_notMem_quoted {F : Form → Prop} {A : Atom → Prop}
    (hA : ∀ a, A a → '\n' ∉ a.shown.toList) {p : Piece} (h : p.All F A) :
    '\n' ∉ p.quoted.toList := by
  induction h with
  | atom ha => exact Atom.break_notMem_quoted (hA _ ha)
  | @record es hes =>
    have hentries : ∀ s ∈ es.map fun e => Text.quoted e.1 ++ ": " ++ e.2.quoted, '\n' ∉ s.toList := by
      intro s hs
      obtain ⟨e, he, rfl⟩ := List.mem_map.1 hs
      simp [Text.break_notMem_quoted, Atom.break_notMem_quoted (hA _ (hes e he))]
    simpa [Piece.quoted] using break_notMem_intercalate (show '\n' ∉ ", ".toList by decide) hentries
  | @items xs hxs ih =>
    have hparts : ∀ s ∈ xs.map Piece.quoted, '\n' ∉ s.toList := by simpa using ih
    simpa [Piece.quoted, quotedAll_eq_map] using
      break_notMem_intercalate (show '\n' ∉ ", ".toList by decide) hparts
  | @node f m hf hps ih => exact f.break_notMem_quoted m

theorem Piece.All.isLine_shown {full : Bool} {F : Form → Prop} {p : Piece}
    (h : p.All F fun a => IsLine full a.shown) : IsLine full p.shown := by
  have hquoted := h.break_notMem_quoted fun _ ha => ha.1
  cases h with
  | atom ha => exact ha
  | record hes => exact ⟨hquoted, fun _ => by simp [Piece.shown, Piece.quoted]⟩
  | items hxs => exact ⟨hquoted, fun _ => by simp [Piece.shown, Piece.quoted]⟩
  | node hf hps => exact ⟨hquoted, fun _ => by simp [Piece.shown, Piece.quoted, Form.quoted]⟩

/-! Trees that can be laid out -/

def Piece.isCase : Piece → Bool
  | .node (.caseOf ..) _ | .node (.defaultCase _) _ => true
  | _ => false

/-- Cases stand only as the cases and the default of a switch. -/
def Form.PlacesCases : Form → Prop
  | .switch e _ _ => e.isCase = false
  | f => ∀ p ∈ f.pieces, p.isCase = false

@[mk_iff]
structure Form.Writable (full : Bool) (f : Form) : Prop where
  program : ∀ s, f ≠ .group .program s
  cases : f.PlacesCases
  /-- The rows of an object are those of what stands in the place of its list. -/
  read : ∀ s, f = .object s → s = Seq.ofPiece s.host
  /-- A case tells an empty body by its text. -/
  switch : full = true ∨ ∀ e cs d, f ≠ .switch e cs d

/-- No program is inside the tree, cases are in their places, and every text stands in one line. -/
def Piece.Writable (full : Bool) : Piece → Prop :=
  Piece.All (Form.Writable full) fun a => IsLine full a.shown

/-- Whether the first line of the form holds something, whatever its parts are. -/
def Form.isFirm : Form → Bool
  | .leaf _ v => v.shown ≠ ""
  | .unary .. | .varDecl .. => false
  | _ => true

section

variable {full : Bool} {m : Marks}

theorem Laid.imp {a b : Prop} {p : Piece} (h : Laid full a p) (hab : b → a) : Laid full b p :=
  Uniform.imp h fun _ hd => hd.imp hab

theorem laid_unruledForm (f : Form) (m : Marks) :
    Uniform 0 0 (fun _ _ => unruled (.node f m)) (Rendered full True) :=
  laid_unruled (p := .node f m) (f.break_notMem_quoted m)

theorem laid_leaf {k : Leaf} {v : Piece} (hv : '\n' ∉ v.shown.toList) :
    Laid full (v.shown ≠ "") (.node (.leaf k v) m) := by
  have hshown : Uniform 0 0 (fun _ _ => pure v) (Rendered full (v.shown ≠ "")) :=
    uniform_pure (rendered_const hv)
  have hparens : Layered full True fun _ _ => "(" ++ v.shown ++ ")" :=
    .then (.then (.opening (by decide)) (.word hv)) (.word (by decide))
  cases k with
  | null => exact uniform_say (Layered.imp (.opening (by decide)) fun _ => trivial)
  | debugger => exact uniform_say (.then (.word hv) (.word (by decide)))
  | regex =>
    exact uniform_ite (fun _ => uniform_say (hparens.imp fun _ => trivial)) fun _ => hshown
  | elision => exact (laid_unruledForm _ m).imp fun _ hd => hd.imp fun _ => trivial
  | _ => exact hshown

/-- Jumps name the value of their label. -/
theorem uniform_value {l : Piece} (hl : l.Writable full) :
    Uniform 0 0 (fun _ _ => (liftM l.value : Render Piece)) fun d =>
      ∃ v : Piece, '\n' ∉ v.shown.toList ∧ d = fun _ _ => v := by
  cases h : l.value with
  | error c => exact .inl ⟨c, fun _ _ => ⟨_, rfl⟩⟩
  | ok v => exact .inr ⟨_, ⟨v, (Piece.All.value hl h).isLine_shown.1, rfl⟩, fun _ _ => rfl⟩

theorem uniform_jump {l : Piece} (hl : l.Writable full) {alone start : String}
    (halone : alone ≠ "" ∧ '\n' ∉ alone.toList) (hstart : start ≠ "" ∧ '\n' ∉ start.toList) :
    Uniform 0 0 (fun _ _ => if l.isAbsent then say alone
      else do say (start ++ (← l.value).shown ++ ";")) (Rendered full True) := by
  refine uniform_ite (fun _ => uniform_say (.opening halone)) fun _ => ?_
  refine uniform_bind (uniform_value hl) fun d hd => ?_
  obtain ⟨v, hv, rfl⟩ := hd
  exact uniform_say (.then (.then (.opening hstart) (.word hv)) (.word (by decide)))

theorem laid_continueTo {l : Piece} (hl : l.Writable full) :
    Laid full True (.node (.continueTo l) m) :=
  uniform_jump hl (by decide) (by decide)

theorem laid_breakTo {l : Piece} (hl : l.Writable full) :
    Laid full True (.node (.breakTo l) m) :=
  uniform_jump hl (by decide) (by decide)

/-- A piece in each of the places where it can stand. -/
structure Piece.Settled (full : Bool) (p : Piece) : Prop where
  laid : p.isCase = false → p.Laid full
  asCase : full = true → Uniform 0 0 (fun _ _ => p.renderCase) (CaseLaid full)
  asDefault : full = true → Uniform 0 0 (fun _ _ => p.renderDefault) (DefaultLaid full)

theorem uniform_missing {D : Leveled → Prop} :
    Uniform 0 0 (fun _ _ => (do deeper; throw .missingAttribute : Render String)) D :=
  .inl ⟨_, fun _ _ => ⟨_, rfl⟩⟩

/-- One form in the place of a part, its own parts being settled. -/
theorem laid_form {f : Form} (hf : f.Writable full) (hps : ∀ q ∈ f.pieces, q.Writable full)
    (ih : ∀ q ∈ f.pieces, q.Settled full) (hcase : (Piece.node f m).isCase = false) :
    Laid full (f.isFirm = true ∨ full = true) (.node f m) := by
  have hlaid : (∀ p ∈ f.pieces, p.isCase = false) → ∀ q ∈ f.pieces, q.Laid full :=
    fun h q hq => (ih q hq).laid (h q hq)
  have hquoted : ∀ q ∈ f.pieces, '\n' ∉ q.shown.toList := fun q hq => (hps q hq).isLine_shown.1
  have hfirm : ∀ {f : Form}, Laid full True (.node f m) →
      Laid full (f.isFirm = true ∨ full = true) (.node f m) := fun h => h.imp fun _ => trivial
  cases f with
  | leaf k v =>
    have hv := (hps v (.head _)).isLine_shown
    have hshown : (Form.leaf k v).isFirm = true ∨ full = true → v.shown ≠ "" :=
      Or.rec (by simp [Form.isFirm]) hv.2
    exact (laid_leaf hv.1).imp hshown
  | group k s =>
    have h := hlaid hf.cases
    cases k with
    | program => exact absurd rfl (hf.program s)
    | block => exact hfirm (laid_block h)
    | vars => exact hfirm (laid_vars h)
    | plain => exact hfirm (laid_unruledForm _ m)
    | splice => exact hfirm (laid_unruledForm _ m)
  | array s => exact hfirm (laid_array (hlaid hf.cases))
  | object s => exact hfirm (laid_object (hlaid hf.cases) (hf.read s rfl))
  | newExpr c s =>
    have h := hlaid hf.cases
    exact hfirm (laid_newExpr (h c (.head _)) fun q hq => h q (.tail _ hq))
  | call c s =>
    have h := hlaid hf.cases
    exact hfirm (laid_call (h c (.head _)) fun q hq => h q (.tail _ hq))
  | bracket t n =>
    have h := hlaid hf.cases
    exact hfirm (laid_bracket (h t (.head _)) (h n (.tail _ (.head _))))
  | dot t n =>
    have h := hlaid hf.cases
    exact hfirm (laid_dot (h t (.head _)) (h n (.tail _ (.head _))))
  | assign op l r =>
    have h := hlaid hf.cases
    exact hfirm (laid_assign (hquoted op (.head _)) (h l (.tail _ (.head _)))
      (h r (.tail _ (.tail _ (.head _)))))
  | getter n b =>
    have h := hlaid hf.cases
    exact hfirm (laid_getter (h n (.head _)) fun q hq => h q (.tail _ hq))
  | setter n ps b =>
    have h := hlaid hf.cases
    exact hfirm (laid_setter (h n (.head _)) (fun q hq => h q (.tail _ (List.mem_append_left _ hq)))
      fun q hq => h q (.tail _ (List.mem_append_right _ hq)))
  | varDecl n v =>
    have h := hlaid hf.cases
    exact (laid_varDecl (h n (.head _)) (h v (.tail _ (.head _)))).imp (by simp [Form.isFirm])
  | unary op x t =>
    have h := hlaid hf.cases
    exact (laid_unary (hquoted op (.head _)) (h x (.tail _ (.head _)))).imp (by simp [Form.isFirm])
  | binary op l r =>
    have h := hlaid hf.cases
    exact hfirm (laid_binary (hquoted op (.head _)) (h l (.tail _ (.head _)))
      (h r (.tail _ (.tail _ (.head _)))))
  | conditional t y n =>
    have h := hlaid hf.cases
    exact hfirm (laid_conditional (h t (.head _)) (h y (.tail _ (.head _)))
      (h n (.tail _ (.tail _ (.head _)))))
  | ifThen t y n =>
    have h := hlaid hf.cases
    exact hfirm (laid_ifThen (h t (.head _)) (h y (.tail _ (.head _)))
      (h n (.tail _ (.tail _ (.head _)))))
  | doWhile t b =>
    have h := hlaid hf.cases
    exact hfirm (laid_doWhile (h t (.head _)) (h b (.tail _ (.head _))))
  | whileDo t b =>
    have h := hlaid hf.cases
    exact hfirm (laid_whileDo (h t (.head _)) (h b (.tail _ (.head _))))
  | forLoop a t s b =>
    have h := hlaid hf.cases
    exact hfirm (laid_forLoop (h a (.head _)) (h t (.tail _ (.head _)))
      (h s (.tail _ (.tail _ (.head _)))) (h b (.tail _ (.tail _ (.tail _ (.head _))))))
  | forIn x s b =>
    have h := hlaid hf.cases
    exact hfirm (laid_forIn (h x (.head _)) (h s (.tail _ (.head _)))
      (h b (.tail _ (.tail _ (.head _)))))
  | continueTo l => exact hfirm (laid_continueTo (hps l (.head _)))
  | breakTo l => exact hfirm (laid_breakTo (hps l (.head _)))
  | returns v => exact hfirm (laid_returns (hlaid hf.cases v (.head _)))
  | withDo s b =>
    have h := hlaid hf.cases
    exact hfirm (laid_withDo (h s (.head _)) (h b (.tail _ (.head _))))
  | switch e cs d =>
    have hfull : full = true := hf.switch.resolve_right fun h => h e cs d rfl
    refine hfirm (laid_switch ((ih e (.head _)).laid hf.cases) (fun q hq => ?_) ?_)
    · exact (ih q (.tail _ (.tail _ hq))).asCase hfull
    · exact (ih d (.tail _ (.head _))).asDefault hfull
  | caseOf e b => cases hcase
  | defaultCase b => cases hcase
  | label n b =>
    have h := hlaid hf.cases
    exact hfirm (laid_label (h n (.head _)) (h b (.tail _ (.head _))))
  | throws v => exact hfirm (laid_throws (hlaid hf.cases v (.head _)))
  | tryDo b c f =>
    have h := hlaid hf.cases
    exact hfirm (laid_tryDo (h b (.head _)) (h c (.tail _ (.head _)))
      (h f (.tail _ (.tail _ (.head _)))))
  | catchDo n b =>
    have h := hlaid hf.cases
    refine hfirm (laid_catchDo (h n (.head _)) (fun q hq => h q (.tail _ hq)) ?_)
    exact (Seq.All.host fun q hq => hps q (.tail _ hq)).break_notMem_quoted fun _ ha => ha.1
  | finallyDo b =>
    refine hfirm (laid_finallyDo (hlaid hf.cases) ?_)
    exact (Seq.All.host hps).break_notMem_quoted fun _ ha => ha.1
  | function k n ps b =>
    have h := hlaid hf.cases
    have hparams : ps.Laid full := fun q hq => h q (.tail _ (List.mem_append_left _ hq))
    have hbody : b.Laid full := fun q hq => h q (.tail _ (List.mem_append_right _ hq))
    cases k with
    | base => exact hfirm (laid_unruledForm _ m)
    | decl => exact hfirm (laid_functionDecl (h n (.head _)) hparams hbody)
    | expr => exact hfirm (laid_functionExpr (h n (.head _)) hparams hbody)
  | comma l r =>
    have h := hlaid hf.cases
    exact hfirm (laid_comma (h l (.head _)) (h r (.tail _ (.head _))))
  | exprStatement v => exact hfirm (laid_exprStatement (hlaid hf.cases v (.head _)))
  | this => exact hfirm (uniform_say (.opening (by decide)))

/-- A case of a switch; all other forms fail in this place. -/
theorem settled_asCase {f : Form} (hf : f.Writable true) (ih : ∀ q ∈ f.pieces, q.Settled true) :
    Uniform 0 0 (fun _ _ => (Piece.node f m).renderCase) (CaseLaid true) := by
  have hlaid : (∀ p ∈ f.pieces, p.isCase = false) → ∀ q ∈ f.pieces, q.Laid true :=
    fun h q hq => (ih q hq).laid (h q hq)
  cases f with
  | caseOf e b =>
    have h := hlaid hf.cases
    exact uniform_caseOf (h e (.head _)) fun q hq => h q (.tail _ hq)
  | bracket t e => exact uniform_bind (hlaid hf.cases e (.tail _ (.head _))) fun _ _ => uniform_missing
  | switch e cs d => exact uniform_bind ((ih e (.head _)).laid hf.cases) fun _ _ => uniform_missing
  | returns | withDo | throws | exprStatement =>
    exact uniform_bind (hlaid hf.cases _ (.head _)) fun _ _ => uniform_missing
  | _ => exact uniform_throw

/-- Whatever has a body can stand as the default of a switch. -/
theorem settled_asDefault {f : Form} (hf : f.Writable true) (ih : ∀ q ∈ f.pieces, q.Settled true) :
    Uniform 0 0 (fun _ _ => (Piece.node f m).renderDefault) (DefaultLaid true) := by
  have hlaid : (∀ p ∈ f.pieces, p.isCase = false) → ∀ q ∈ f.pieces, q.Laid true :=
    fun h q hq => (ih q hq).laid (h q hq)
  cases f with
  | defaultCase b => exact uniform_defaultOf (hlaid hf.cases)
  | caseOf e b => exact uniform_defaultOf fun q hq => hlaid hf.cases q (.tail _ hq)
  | getter n b => exact uniform_defaultOf fun q hq => hlaid hf.cases q (.tail _ hq)
  | setter n ps b =>
    exact uniform_defaultOf fun q hq => hlaid hf.cases q (.tail _ (List.mem_append_right _ hq))
  | function k n ps b =>
    exact uniform_defaultOf fun q hq => hlaid hf.cases q (.tail _ (List.mem_append_right _ hq))
  | catchDo n b => exact uniform_defaultOf fun q hq => hlaid hf.cases q (.tail _ hq)
  | finallyDo b => exact uniform_defaultOf (hlaid hf.cases)
  | _ => exact uniform_missing

theorem settled_raw {p : Piece} (hquoted : '\n' ∉ p.quoted.toList) (hrender : p.render = unruled p)
    (hcase : p.renderCase = throw .missingAttribute)
    (hdefault : p.renderDefault = (do deeper; throw .missingAttribute)) : p.Settled full := by
  refine ⟨fun _ => ?_, fun _ => ?_, fun _ => ?_⟩
  · unfold Piece.Laid Script.Laid
    rw [hrender]
    exact (laid_unruled hquoted).imp fun _ hd => hd.imp fun _ => trivial
  · rw [hcase]
    exact uniform_throw
  · rw [hdefault]
    exact uniform_missing

/-- Every tree is settled, form by form from the leaves. -/
theorem settled_of_writable {p : Piece} (h : p.Writable full) : p.Settled full := by
  have hquoted := h.break_notMem_quoted fun _ ha => ha.1
  induction h with
  | atom ha => exact settled_raw hquoted rfl rfl rfl
  | record hes => exact settled_raw hquoted rfl rfl rfl
  | items hxs ih => exact settled_raw hquoted rfl rfl rfl
  | @node f m hf hps ih =>
    have hparts : ∀ q ∈ f.pieces, q.Settled full := fun q hq =>
      ih q hq ((hps q hq).break_notMem_quoted fun _ ha => ha.1)
    refine ⟨fun hcase => (laid_form hf hps hparts hcase).imp .inr, ?_, ?_⟩
    · rintro rfl
      exact settled_asCase hf hparts
    · rintro rfl
      exact settled_asDefault hf hparts

end

/-! Lines of trees -/

/-- The blanks of one level. -/
def unitOf (width : Int) : String := String.ofList (List.replicate width.toNat ' ')

/-- A switch without statements. -/
def emptySwitch : Piece :=
  .node (.switch (.node (.leaf .ident (.text "x")) {})
    (.items [.node (.caseOf (.node (.leaf .number (.text "1")) {}) (.items [])) {}])
    (.node (.defaultCase (.items [])) {})) {}

theorem emptySwitch_renderAt : emptySwitch.renderAt 1 0 =
    (.ok (.text "switch (x) \x7b\n  case 1:\n  default:\n\n\x7d"), 0) :=
  rfl

end Script

end Transpile
