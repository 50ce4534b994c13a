import Transpile.Proofs.Breaks
import Transpile.Proofs.Discipline
import Transpile.Proofs.Parts

/-! Where the pieces of a script tree come from. Rules put together what the walk has collected, what
is in scope and the atoms of the source tree. What holds of these, and of the forms, words and texts
that rules bring along, holds of all that a walk makes; and the walk is the same under options that
differ only in how a program is wrapped. -/

namespace Transpile

namespace Source.Tree

mutual

/-- The atoms in the leaves of the tree. -/
def atoms : Tree → List Atom
  | .missing => []
  | .atom a => [a]
  | .list ts => atomsAll ts
  | .node _ fs => atomsAll fs

def atomsAll : List Tree → List Atom
  | [] => []
  | t :: ts => atoms t ++ atomsAll ts

end

theorem mem_atomsAll {ts : List Tree} {t : Tree} (ht : t ∈ ts) {a : Atom} (ha : a ∈ t.atoms) :
    a ∈ atomsAll ts := by
  induction ts with
  | nil => cases ht
  | cons u ts ih =>
    rcases List.mem_cons.1 ht with rfl | ht
    · exact List.mem_append_left _ ha
    · exact List.mem_append_right _ (ih ht)

end Source.Tree

/-- The forms that rules make of any parts. Identifiers hold names, and a program stands by itself. -/
def Script.Form.isMade : Form → Bool
  | .leaf .ident _ | .group .program _ | .setter .. | .switch .. | .caseOf .. | .defaultCase _ => false
  | .object (.items _) => true
  | .object _ => false
  | _ => true

namespace Walk

open Script Source

/-- The names that rules bring along. -/
def fixedNames : List String :=
  ["Math", "pow", "floor", "slice", "length", "push", "prototype", "this", "call"]

/-- What a walk can put into a tree under options that differ only in how a program is wrapped:
forms as in `F` and atoms as in `A`, as long as it is given such. -/
structure Supply where
  o : Options
  o' : Options
  camelCase : o'.camelCase = o.camelCase
  debug : o'.debug = o.debug
  F : Form → Prop
  A : Atom → Prop
  made : ∀ f, f.isMade = true → F f
  fixed : ∀ s ∈ fixedNames, F (.leaf .ident (.text s))
  named : o.camelCase = false → ∀ v : Piece, v.All F A → F (.leaf .ident v)
  camel : o.camelCase = true → ∀ s, A (.text s) →
    F (.leaf .ident (.text (Text.camel s))) ∧ A (.text (Text.camel s))
  none : A .none
  flag : ∀ b, A (.flag b)
  line : ∀ s, '\n' ∉ s.toList → A (.text s)
  shown : ∀ a, A a → A (.text a.shown)
  append : ∀ s t, A (.text s) → A (.text t) → A (.text (s ++ t))

namespace Supply

def Fine (σ : Supply) (p : Piece) : Prop := p.All σ.F σ.A

/-- All that a state holds is fine. -/
structure Stocked (σ : Supply) (s : State) : Prop where
  levels : ∀ e ∈ s.levels.entries, ∀ p ∈ e.2, σ.Fine p
  special : ∀ b ∈ s.scope.special, σ.Fine b.target
  maps : ∀ m ∈ s.scope.maps, ∀ b ∈ m, σ.Fine b.target
  imported : ∀ k, s.globalName = some k ∨ s.newName = some k → σ.A (.text k)

theorem stocked_start (σ : Supply) : σ.Stocked {} :=
  ⟨by simp, by simp, by simp [Scope.maps], by simp⟩

def Holds (σ : Supply) (t : Tree) : Prop := ∀ a ∈ t.atoms, σ.A a

end Supply

variable {α β : Type} {σ : Supply}

/-- From a stocked state, the walk runs alike under both options, and a successful run gives a result
with the property and leaves a stocked state. -/
def Hands (σ : Supply) (Q : α → Prop) (w : Walker α) : Prop :=
  ∀ s, σ.Stocked s → run w σ.o' s = run w σ.o s ∧
    ∀ a s', run w σ.o s = (.ok a, s') → Q a ∧ σ.Stocked s'

/-! Steps -/

section Steps

theorem hands_pure {Q : α → Prop} {a : α} (h : Q a) : Hands σ Q (pure a) := by
  refine fun s hs => ⟨rfl, fun b s' hr => ?_⟩
  cases hr
  exact ⟨h, hs⟩

theorem hands_throw {Q : α → Prop} (c : Cause) : Hands σ Q (throw c) :=
  fun s hs => ⟨rfl, fun b s' hr => by cases hr⟩

theorem hands_bind {P : α → Prop} {Q : β → Prop} {w : Walker α} {f : α → Walker β}
    (hw : Hands σ P w) (hf : ∀ a, P a → Hands σ Q (f a)) : Hands σ Q (w >>= f) := by
  intro s hs
  obtain ⟨heq, hok⟩ := hw s hs
  refine ⟨?_, fun b s'' hr => ?_⟩
  · rw [run_bind, run_bind, heq]
    split
    · next a s' hr =>
      obtain ⟨ha, hs'⟩ := hok a s' hr
      exact (hf a ha s' hs').1
    · rfl
  · obtain ⟨a, s', hr, hr'⟩ := run_bind_ok hr
    obtain ⟨ha, hs'⟩ := hok a s' hr
    exact (hf a ha s' hs').2 b s'' hr'

theorem hands_ite {Q : α → Prop} {c : Prop} [Decidable c] {w w' : Walker α} (h : Hands σ Q w)
    (h' : Hands σ Q w') : Hands σ Q (if c then w else w') := by
  split_ifs
  · exact h
  · exact h'

/-- A check that fails or does nothing, before what gives the result. -/
theorem hands_guard {Q : α → Prop} {c : Prop} [Decidable c] {e : Cause} {f : Unit → Walker α}
    (hf : Hands σ Q (f ())) : Hands σ Q (if c then throw e >>= f else f ()) :=
  hands_ite (fun s hs => ⟨rfl, fun a s' h => by cases h⟩) hf

theorem hands_get : Hands σ σ.Stocked get := by
  refine fun s hs => ⟨rfl, fun a s' hr => ?_⟩
  cases hr
  exact ⟨hs, hs⟩

theorem hands_modify {f : State → State} (hf : ∀ s, σ.Stocked s → σ.Stocked (f s)) :
    Hands σ (fun _ => True) (modify f) := by
  refine fun s hs => ⟨rfl, fun a s' hr => ?_⟩
  cases hr
  exact ⟨trivial, hf s hs⟩

theorem hands_need {Q : α → Prop} {e : Except Cause α} (h : ∀ a, e = .ok a → Q a) :
    Hands σ Q (need e) := by
  cases e with
  | ok a => exact hands_pure (h a rfl)
  | error c => exact hands_throw c

theorem hands_mapM {f : α → Walker β} {Q : β → Prop} {as : List α}
    (hf : ∀ a ∈ as, Hands σ Q (f a)) : Hands σ (fun bs => ∀ b ∈ bs, Q b) (as.mapM f) := by
  induction as with
  | nil => exact hands_pure (by simp)
  | cons a as ih =>
    rw [List.mapM_cons]
    refine hands_bind (hf a (by simp)) fun b hb => ?_
    refine hands_bind (ih fun c hc => hf c (by simp [hc])) fun bs hbs => hands_pure ?_
    simpa using ⟨hb, hbs⟩

theorem hands_forM {f : α → Walker PUnit} {as : List α}
    (hf : ∀ a ∈ as, Hands σ (fun _ => True) (f a)) : Hands σ (fun _ => True) (as.forM f) := by
  induction as with
  | nil => exact hands_pure trivial
  | cons a as ih => exact hands_bind (hf a (by simp)) fun _ _ => ih fun b hb => hf b (by simp [hb])

theorem hands_child {cs : List Piece} (hcs : ∀ c ∈ cs, σ.Fine c) (i : Nat) :
    Hands σ σ.Fine (child cs i) := by
  unfold child
  split
  · next p hp => exact hands_pure (hcs p (List.mem_of_getElem? hp))
  · exact hands_throw _

theorem hands_given (t : Tree) : Hands σ (fun _ => True) (given t) := by
  unfold given
  split
  · exact hands_throw _
  · exact hands_pure trivial

theorem hands_sizeOfField (t : Tree) : Hands σ (fun _ => True) (sizeOfField t) := by
  refine hands_bind (hands_given t) fun t _ => ?_
  split
  · exact hands_pure trivial
  · exact hands_pure trivial
  · exact hands_throw _

theorem hands_operatorOf (t : Tree) : Hands σ (fun _ => True) (operatorOf t) := by
  refine hands_bind (hands_given t) fun t _ => ?_
  split <;> exact hands_pure trivial

/-- A field where a name is expected gives an atom of the tree, or something without parts. -/
theorem hands_atomField {t : Tree} (ht : σ.Holds t) :
    Hands σ (fun p => σ.Fine p ∧ σ.A (.text p.shown)) (atomField t) := by
  unfold atomField
  split
  · exact hands_throw _
  · next a =>
    have ha : σ.A a := ht a (by simp [Tree.atoms])
    exact hands_pure ⟨.atom ha, σ.shown a ha⟩
  · exact hands_pure ⟨.items (by simp), σ.line _ (by decide)⟩
  · exact hands_pure ⟨.record (by simp), σ.line _ (by decide)⟩

theorem hands_say (line : String) : Hands σ (fun _ => True) (say line) := by
  refine fun s hs => ⟨?_, fun a s' hr => ⟨trivial, ?_⟩⟩
  · simp only [say, run_bind, run_read, σ.debug]
    split_ifs <;> rfl
  · obtain ⟨tr, h⟩ := run_say line σ.o s
    rw [h] at hr
    cases hr
    exact ⟨hs.levels, hs.special, hs.maps, hs.imported⟩

end Steps

/-! Pieces -/

section Pieces

variable {p q : Piece}

attribute [local simp] Form.pieces Seq.pieces

theorem fine_piece {f : Form} (hf : f.isMade = true) (h : ∀ q ∈ f.pieces, σ.Fine q) :
    σ.Fine f.piece :=
  .node (σ.made f hf) h

theorem fine_absent : σ.Fine .absent := .atom σ.none

theorem fine_flag (b : Bool) : σ.Fine (.atom (.flag b)) := .atom (σ.flag b)

theorem fine_text {s : String} (hs : '\n' ∉ s.toList) : σ.Fine (text s) := .atom (σ.line s hs)

theorem fine_word {s : String} (hs : s ∈ fixedNames) : σ.Fine (word s) := by
  have hline : ∀ s ∈ fixedNames, '\n' ∉ s.toList := by decide
  refine .node (σ.fixed s hs) fun q hq => ?_
  rw [List.mem_singleton.1 hq]
  exact fine_text (hline s hs)

theorem fine_leaf {k : Leaf} (hk : k ≠ .ident) {s : String} (hs : '\n' ∉ s.toList) :
    σ.Fine (leaf k s) := by
  have hmade : (Form.leaf k (.text s)).isMade = true := by cases k <;> first | rfl | exact absurd rfl hk
  refine fine_piece hmade fun q hq => ?_
  rw [List.mem_singleton.1 hq]
  exact fine_text hs

theorem fine_block {ps : List Piece} (h : ∀ p ∈ ps, σ.Fine p) : σ.Fine (block ps) :=
  fine_piece rfl h

theorem fine_splice {ps : List Piece} (h : ∀ p ∈ ps, σ.Fine p) : σ.Fine (splice ps) :=
  fine_piece rfl h

theorem fine_statement (h : σ.Fine p) : σ.Fine (statement p) :=
  fine_piece rfl (by simpa using h)

theorem fine_assignTo {op : String} (hop : '\n' ∉ op.toList) (hp : σ.Fine p) (hq : σ.Fine q) :
    σ.Fine (assignTo op p q) :=
  fine_piece rfl (by simpa using ⟨fine_text hop, hp, hq⟩)

theorem fine_binary {op : String} (hop : '\n' ∉ op.toList) (hp : σ.Fine p) (hq : σ.Fine q) :
    σ.Fine (binary op p q) :=
  fine_piece rfl (by simpa using ⟨fine_text hop, hp, hq⟩)

theorem fine_bracket (hp : σ.Fine p) (hq : σ.Fine q) : σ.Fine (Form.bracket p q).piece :=
  fine_piece rfl (by simpa using ⟨hp, hq⟩)

theorem fine_dot {s : String} (hs : s ∈ fixedNames) (hp : σ.Fine p) : σ.Fine (dot p s) :=
  fine_piece rfl (by simpa using ⟨hp, fine_word hs⟩)

theorem fine_callOf {ps : List Piece} (hp : σ.Fine p) (hps : ∀ q ∈ ps, σ.Fine q) :
    σ.Fine (callOf p ps) :=
  fine_piece rfl (by simpa using ⟨hp, hps⟩)

theorem fine_unary {op : String} (hop : '\n' ∉ op.toList) (hp : σ.Fine p) (b : Bool) :
    σ.Fine (Form.unary (text op) p (.atom (.flag b))).piece :=
  fine_piece rfl (by simpa using ⟨fine_text hop, hp, fine_flag b⟩)

theorem fine_spliced (h : σ.Fine p) : ∀ q ∈ spliced p, σ.Fine q := by
  unfold spliced
  split
  · next s m =>
    intro q hq
    have hs : s.All σ.F σ.A := (Piece.all_node_iff.1 h).2
    cases hps : s.parts? with
    | none => simp [hps] at hq
    | some ps =>
      rw [hps] at hq
      exact hs.parts hps q (List.mem_filter.1 hq).1
  · simp
  · simpa using h

theorem fine_arrayParts {ps : List Piece} (h : σ.Fine p) (hps : arrayParts? p = some ps) :
    ∀ q ∈ ps, σ.Fine q := by
  unfold arrayParts? at hps
  split at hps
  · next s m =>
    cases hps
    have hs : s.All σ.F σ.A := (Piece.all_node_iff.1 h).2
    intro q hq
    cases hread : s.parts? with
    | none => simp [hread] at hq
    | some ps =>
      rw [hread] at hq
      exact hs.parts hread q (List.mem_filter.1 hq).1
  · cases hps

end Pieces

/-! Names -/

section Names

variable {p : Piece}

attribute [local simp] Form.pieces Seq.pieces

theorem hands_sourceName (hp : σ.Fine p) : Hands σ σ.Fine (sourceName p) := by
  refine fun s hs => ⟨?_, fun q s' hr => ?_⟩
  · simp only [sourceName, run_bind, run_read, σ.camelCase]
    split_ifs
    · split <;> rfl
    · rfl
  · cases hc : σ.o.camelCase with
    | false =>
      rw [run_sourceName hc] at hr
      cases hr
      refine ⟨.node (σ.named hc p hp) fun q hq => ?_, hs⟩
      rw [List.mem_singleton.1 hq]
      exact hp
    | true =>
      simp only [sourceName, run_bind, run_read, hc, if_true] at hr
      split at hr
      · next t =>
        cases hr
        obtain ⟨hF, hA⟩ := σ.camel hc t (Piece.all_atom_iff.1 hp)
        refine ⟨.node hF fun q hq => ?_, hs⟩
        rw [List.mem_singleton.1 hq]
        exact .atom hA
      · cases hr

theorem hands_atSite (hp : σ.Fine p) : Hands σ σ.Fine (atSite p) := by
  unfold atSite
  split
  · next f m =>
    obtain ⟨hf, hps⟩ := Piece.all_node_iff.1 hp
    refine hands_bind hands_get fun s _ => hands_bind (hands_modify fun s hs => ?_) fun _ _ =>
      hands_pure (.node hf hps)
    exact ⟨hs.levels, hs.special, hs.maps, hs.imported⟩
  · exact hands_pure hp

theorem hands_inScope (key : Option String) : Hands σ (fun _ => True) (inScope key) :=
  hands_bind hands_get fun _ _ => hands_pure trivial

theorem hands_changeScope {f : Scope → Except Cause Unit × Scope}
    (hf : ∀ s, σ.Stocked s → σ.Stocked { s with scope := (f s.scope).2 }) :
    Hands σ (fun _ => True) (changeScope f) := by
  refine fun s hs => ⟨?_, fun a s' hr => ⟨trivial, ?_⟩⟩
  · cases h : (f s.scope).1 <;> simp only [changeScope, run_bind, run_get, run_modify, h] <;> rfl
  obtain ⟨-, rfl⟩ := run_changeScope hr
  exact hf s hs

theorem hands_set (hp : σ.Fine p) (key : Option String) :
    Hands σ (fun _ => True) (changeScope (·.set key p)) := by
  refine hands_changeScope fun s hs => ⟨hs.levels, hs.special, fun m hm b hb => ?_, hs.imported⟩
  rcases List.mem_cons.1 hm with rfl | hm
  · rcases mem_put hb with hb | rfl
    · exact hs.maps _ (.head _) b hb
    · exact hp
  · exact hs.maps m (.tail _ hm) b hb

theorem hands_bindAs {key : Piece} (hp : σ.Fine p) : Hands σ σ.Fine (bindAs key p) := by
  refine hands_bind (hands_inScope _) fun _ _ => hands_ite (hands_pure hp) ?_
  refine hands_bind (hands_atSite hp) fun q hq => ?_
  exact hands_bind (hands_set hq _) fun _ _ => hands_pure hq

theorem hands_bindByValue (hp : σ.Fine p) : Hands σ σ.Fine (Walk.bind p) :=
  hands_bind (hands_need (Q := fun _ => True) fun _ _ => trivial) fun _ _ => hands_bindAs hp

theorem break_notMem_numbered {stem : String} (h : '\n' ∉ stem.toList) (i : Nat) :
    '\n' ∉ (Scope.numbered stem i).toList := by
  simp only [Scope.numbered, String.toList_append, List.mem_append, not_or]
  exact ⟨⟨h, by decide⟩, break_notMem_toString i⟩

theorem hands_fresh {stem : String} (h : '\n' ∉ stem.toList) : Hands σ σ.Fine (fresh stem) := by
  refine hands_bind hands_get fun s _ => ?_
  refine hands_bind (hands_sourceName (fine_text (break_notMem_numbered h _))) fun p hp => ?_
  refine hands_bind (hands_atSite hp) fun q hq => ?_
  exact hands_bind (hands_set hq _) fun _ _ => hands_pure hq

theorem hands_declare (hp : σ.Fine p) : Hands σ σ.Fine (declare p) := by
  have hneed : Hands σ σ.Fine (need p.declare) := hands_need fun _ => hp.declare
  unfold declare
  split
  · refine hands_bind (hands_modify fun s hs => ?_) fun _ _ => hneed
    exact ⟨hs.levels, hs.special, hs.maps, hs.imported⟩
  · exact hneed

theorem hands_declaration {v : Piece} (hp : σ.Fine p) (hv : σ.Fine v) :
    Hands σ σ.Fine (declaration p v) :=
  hands_bind (hands_declare hp) fun q hq =>
    hands_pure (fine_piece rfl (by simpa using ⟨hq, hv⟩))

theorem hands_scopeVars (root : Bool) :
    Hands σ (fun ps => ∀ p ∈ ps, σ.Fine p) (scopeVars root) := by
  refine hands_bind hands_get fun s hs => ?_
  have htargets : ∀ ps, s.scope.identifiers root = .ok ps → ∀ p ∈ ps, σ.Fine p := by
    intro ps hps p hp
    have hmem := (sorted_ok hps).1.mem_iff.1 hp
    rcases List.mem_append.1 hmem with hm | hm
    · split_ifs at hm
      · obtain ⟨b, hb, rfl⟩ := List.mem_map.1 hm
        exact hs.special b hb
      · cases hm
    · obtain ⟨b, hb, rfl⟩ := List.mem_map.1 hm
      exact hs.maps _ (.head _) b hb
  refine hands_bind (hands_need htargets) fun ps hps => ?_
  split
  · exact hands_pure (by simp)
  · refine hands_bind (hands_mapM fun p hp => hands_declaration (hps p hp) fine_absent) fun qs hqs => ?_
    have hvars : σ.Fine (Form.group .vars (.items qs)).piece := fine_piece rfl hqs
    exact hands_pure (by simpa using hvars)

theorem hands_functionOf {params body : Seq}
    (hparams : ∀ ps, params.declare = .ok ps → ps.All σ.F σ.A) (hbody : body.All σ.F σ.A) :
    Hands σ σ.Fine (functionOf params body) := by
  refine hands_bind (P := fun f => σ.Fine f.piece) (hands_need fun f hf => ?_) fun f hf =>
    hands_pure hf
  obtain ⟨_, hname, hf⟩ := ok_of_bind hf
  obtain ⟨ps, hps, hf⟩ := ok_of_bind hf
  cases hname
  cases hf
  refine fine_piece rfl fun q hq => ?_
  rcases List.mem_cons.1 hq with rfl | hq
  · exact fine_absent
  · rcases List.mem_append.1 hq with hq | hq
    · exact hparams ps hps q hq
    · exact hbody q hq

/-- A function without parameters. -/
theorem hands_thunk {body : Seq} (hbody : body.All σ.F σ.A) :
    Hands σ σ.Fine (functionOf (.items []) body) :=
  hands_functionOf (fun ps hps => by cases hps; simp [Seq.All]) hbody

end Names

end Walk

end Transpile
