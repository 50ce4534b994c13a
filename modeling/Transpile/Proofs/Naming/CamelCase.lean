import Transpile.Proofs.Camel
import Transpile.Proofs.Closure.Rows

/-! With names in camel case, every identifier of a script is in camel case: it has no underscore, and
camel case does not change it any more. -/

namespace Transpile.Walk

open Script Source

/-- What identifiers are like in camel case: they hold a text that has no underscore, and that camel
case does not change. -/
def IsCamel (f : Form) : Prop :=
  ∀ v, f = .leaf .ident v → ∃ s, v = .text s ∧ '_' ∉ s.toList ∧ Text.camel s = s

theorem isCamel_camel (s : String) : IsCamel (.leaf .ident (.text (Text.camel s))) := by
  intro v hv
  cases hv
  have hs := Text.underscore_notMem_camel s
  exact ⟨_, rfl, hs, Text.camel_of_notMem hs⟩

/-- With names in camel case, identifiers are the camel case of texts, or names that rules bring
along, which have no underscore. -/
def cased (o : Options) (ho : o.camelCase = true) : Supply where
  o := o
  o' := o
  camelCase := rfl
  debug := rfl
  F := IsCamel
  A _ := True
  made f hf v hv := by
    subst hv
    cases hf
  fixed s hs v hv := by
    cases hv
    have hfixed : ∀ s ∈ fixedNames, '_' ∉ s.toList := by decide
    exact ⟨s, rfl, hfixed s hs, Text.camel_of_notMem (hfixed s hs)⟩
  named hno := by rw [ho] at hno; cases hno
  camel _ s _ := ⟨isCamel_camel s, trivial⟩
  none := trivial
  flag _ := trivial
  line _ _ := trivial
  shown _ _ := trivial
  append _ _ _ _ := trivial

variable {σ : Supply}

theorem hands_read (h : σ.o' = σ.o) : Hands σ (fun _ => True) read := by
  refine fun s hs => ⟨by rw [h], fun o s' hr => ?_⟩
  cases hr
  exact ⟨trivial, hs⟩

theorem fine_wrapProgram {closure : Bool} {body : List Piece}
    (hprogram : ∀ ps, σ.F (.group .program (.items ps))) (hb : ∀ p ∈ body, σ.Fine p) :
    σ.Fine (wrapProgram closure body) := by
  have hgroup {ps : List Piece} (hps : ∀ p ∈ ps, σ.Fine p) :
      σ.Fine (Form.group .program (.items ps)).piece := .node (hprogram ps) hps
  unfold wrapProgram
  split_ifs
  · have hcall : σ.Fine (callOf (dot (Form.function .expr .absent (.items []) (.items body)).piece.inParens
        "call") [Form.this.piece]) := by
      refine fine_callOf (fine_dot (by decide) (Piece.All.inParens (fine_piece rfl fun q hq => ?_))) ?_
      · rcases List.mem_cons.1 hq with rfl | hq
        · exact fine_absent
        · exact hb q hq
      · exact List.forall_mem_singleton.2 (fine_piece rfl (by simp [Form.pieces]))
    exact hgroup (List.forall_mem_singleton.2 (fine_statement hcall))
  · exact hgroup hb

theorem hands_programRule (h : σ.o' = σ.o) (hprogram : ∀ ps, σ.F (.group .program (.items ps)))
    {cs : List Piece} (hcs : ∀ c ∈ cs, σ.Fine c) : Hands σ σ.Fine (programRule cs) := by
  rw [programRule_eq]
  refine hands_bind (hands_programStatements hcs) fun body hbody => ?_
  exact hands_bind (hands_read h) fun o _ => hands_pure (fine_wrapProgram hprogram hbody)

/-- With one option for both, the walk over any tree makes pieces of what the tree and the state hold,
programs included. -/
theorem hands_walk_programs (h : σ.o' = σ.o) (hprogram : ∀ ps, σ.F (.group .program (.items ps)))
    {t : Tree} (ht : σ.Holds t) : (walk t).All (Hands σ σ.Fine) := by
  refine hands_walk_of [] (fun k _ ws hw hfs cs hcs => ?_) (by simp) ht
  by_cases hk : k = .module
  · subst hk
    change Hands σ σ.Fine (fieldRule .module (ws.map Branch.tree) cs)
    exact hands_programRule h hprogram hcs
  · exact hands_rule hk hw hfs hcs

/-- What a walk with names in camel case makes of any tree, a module or a part of one, has identifiers
in camel case only. -/
theorem identifiers_in_camel_case (t : Tree) {o : Options} (ho : o.camelCase = true) {p : Piece}
    {s' : State} (h : run (visit t) o {} = (.ok p, s')) : p.All IsCamel fun _ => True := by
  have hw : (walk t).All (Hands (cased o ho) (cased o ho).Fine) :=
    hands_walk_programs rfl (fun ps v hv => by cases hv) fun _ _ => trivial
  exact ((hw.again {} (cased o ho).stocked_start).2 p s' h).1

/-- A function with a parameter, in which an attribute of that is given a name. -/
def snakeFunction : Tree :=
  .node .module [.list [
    .node .functionDef [.text "first_of",
      .node .arguments [.list [.node .arg [.text "a_list", .none]]],
      .list [.node .assign [.list [nameNode "_first_item"],
        .node .attr [nameNode "a_list", .text "all_items", .node (.use .load) []]]],
      .list [], .none]]]

theorem snakeFunction_in_camel_case :
    ∃ p s', run (visit snakeFunction) { camelCase := true } {} = (.ok p, s') ∧
      p.All IsCamel fun _ => True := by
  have hok : (run (visit snakeFunction) { camelCase := true } {}).1.isOk = true := by decide +kernel
  rcases hr : run (visit snakeFunction) { camelCase := true } {} with ⟨c | p, s'⟩
  · rw [hr] at hok
    cases hok
  · exact ⟨p, s', rfl, identifiers_in_camel_case snakeFunction rfl hr⟩

end Transpile.Walk
