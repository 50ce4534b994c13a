import Transpile.Proofs.Parts
import Transpile.Script.Render
import Mathlib.Data.List.Forall2
import Mathlib.Tactic.Common

/-! Addresses in trees. A form that is shown as a value shows its address, which is another one each
time a tree is built. A placement gives every form of a tree an address; texts are alike if they are the
same but for the addresses in them. -/

namespace Transpile.Script

/-! Texts -/

/-- The texts are the same but for addresses. -/
inductive Alike : String → String → Prop
  | same (s : String) : Alike s s
  | address (m n : Nat) : Alike (addressText m) (addressText n)
  | append {s s' t t' : String} : Alike s s' → Alike t t' → Alike (s ++ t) (s' ++ t')

theorem Alike.isEmpty_eq {s t : String} (h : Alike s t) : s.isEmpty = t.isEmpty := by
  rw [Bool.eq_iff_iff, String.isEmpty_iff, String.isEmpty_iff]
  induction h with
  | same s => rfl
  | address m n => simp [addressText]
  | append _ _ ihs iht => rw [String.append_eq_empty_iff, String.append_eq_empty_iff, ihs, iht]

/-- A text that holds no address is like itself only. -/
theorem Alike.eq_of_plain {s t : String} (h : Alike s t) (hs : ¬ " at 0x".toList <:+: s.toList) :
    s = t := by
  induction h with
  | same s => rfl
  | address m n =>
    rw [addressText, String.toList_append] at hs
    exact absurd (List.prefix_append _ _).isInfix hs
  | append _ _ ihs iht =>
    rw [String.toList_append] at hs
    rw [ihs fun h => hs (h.trans (List.infix_append' [] _ _)),
      iht fun h => hs (h.trans (List.suffix_append _ _).isInfix)]

theorem alike_join {ss ts : List String} (h : List.Forall₂ Alike ss ts) :
    Alike (String.join ss) (String.join ts) := by
  induction h with
  | nil => exact .same _
  | cons hs _ ih =>
    rw [String.join_cons, String.join_cons]
    exact hs.append ih

theorem alike_intercalate (sep : String) {ss ts : List String} (h : List.Forall₂ Alike ss ts) :
    Alike (sep.intercalate ss) (sep.intercalate ts) := by
  induction h with
  | nil => exact .same _
  | cons hs hrest ih =>
    cases hrest with
    | nil => simpa using hs
    | cons ht hrest =>
      rw [String.intercalate_cons_cons, String.intercalate_cons_cons]
      exact (hs.append (.same sep)).append ih

/-! Trees -/

/-- An address for every part of a tree, by the numbers of the steps that lead to it. -/
abbrev Placement := List Nat → Nat

/-- The addresses in the part behind a step. -/
def Placement.at (π : Placement) (i : Nat) : Placement := fun path => π (i :: path)

mutual

/-- The piece with its forms at the given addresses. -/
def Piece.placed (π : Placement) : Piece → Piece
  | .atom a => .atom a
  | .record es => .record es
  | .items xs => .items (placedAll π xs)
  | .node f m => .node (f.placed π) { m with place := some (π []) }

def Form.placed (π : Placement) : Form → Form
  | .leaf k v => .leaf k (v.placed (π.at 0))
  | .group k s => .group k (s.placed (π.at 0))
  | .array s => .array (s.placed (π.at 0))
  | .object s => .object (s.placed (π.at 0))
  | .newExpr c s => .newExpr (c.placed (π.at 0)) (s.placed (π.at 1))
  | .call c s => .call (c.placed (π.at 0)) (s.placed (π.at 1))
  | .bracket t i => .bracket (t.placed (π.at 0)) (i.placed (π.at 1))
  | .dot t n => .dot (t.placed (π.at 0)) (n.placed (π.at 1))
  | .assign op l r => .assign (op.placed (π.at 0)) (l.placed (π.at 1)) (r.placed (π.at 2))
  | .getter n b => .getter (n.placed (π.at 0)) (b.placed (π.at 1))
  | .setter n ps b => .setter (n.placed (π.at 0)) (ps.placed (π.at 1)) (b.placed (π.at 2))
  | .varDecl n v => .varDecl (n.placed (π.at 0)) (v.placed (π.at 1))
  | .unary op v t => .unary (op.placed (π.at 0)) (v.placed (π.at 1)) (t.placed (π.at 2))
  | .binary op l r => .binary (op.placed (π.at 0)) (l.placed (π.at 1)) (r.placed (π.at 2))
  | .conditional t y n => .conditional (t.placed (π.at 0)) (y.placed (π.at 1)) (n.placed (π.at 2))
  | .ifThen t y n => .ifThen (t.placed (π.at 0)) (y.placed (π.at 1)) (n.placed (π.at 2))
  | .doWhile t b => .doWhile (t.placed (π.at 0)) (b.placed (π.at 1))
  | .whileDo t b => .whileDo (t.placed (π.at 0)) (b.placed (π.at 1))
  | .forLoop i t s b =>
    .forLoop (i.placed (π.at 0)) (t.placed (π.at 1)) (s.placed (π.at 2)) (b.placed (π.at 3))
  | .forIn i s b => .forIn (i.placed (π.at 0)) (s.placed (π.at 1)) (b.placed (π.at 2))
  | .continueTo l => .continueTo (l.placed (π.at 0))
  | .breakTo l => .breakTo (l.placed (π.at 0))
  | .returns v => .returns (v.placed (π.at 0))
  | .withDo s b => .withDo (s.placed (π.at 0)) (b.placed (π.at 1))
  | .switch e cs d => .switch (e.placed (π.at 0)) (cs.placed (π.at 1)) (d.placed (π.at 2))
  | .caseOf e b => .caseOf (e.placed (π.at 0)) (b.placed (π.at 1))
  | .defaultCase b => .defaultCase (b.placed (π.at 0))
  | .label n b => .label (n.placed (π.at 0)) (b.placed (π.at 1))
  | .throws v => .throws (v.placed (π.at 0))
  | .tryDo b c f => .tryDo (b.placed (π.at 0)) (c.placed (π.at 1)) (f.placed (π.at 2))
  | .catchDo n b => .catchDo (n.placed (π.at 0)) (b.placed (π.at 1))
  | .finallyDo b => .finallyDo (b.placed (π.at 0))
  | .function k n ps b =>
    .function k (n.placed (π.at 0)) (ps.placed (π.at 1)) (b.placed (π.at 2))
  | .comma l r => .comma (l.placed (π.at 0)) (r.placed (π.at 1))
  | .exprStatement v => .exprStatement (v.placed (π.at 0))
  | .this => .this

def Seq.placed (π : Placement) : Seq → Seq
  | .items xs => .items (placedAll π xs)
  | .spread host xs => .spread (host.placed (π.at 0)) (placedAll (π.at 1) xs)
  | .single host => .single (host.placed (π.at 0))

def placedAll (π : Placement) : List Piece → List Piece
  | [] => []
  | p :: ps => p.placed (π.at 0) :: placedAll (π.at 1) ps

end

section

variable {F : Form → Prop} {A : Atom → Prop} {π π' : Placement}

theorem forall_placedAll {P : Piece → Prop} {ps : List Piece} (h : ∀ p ∈ ps, ∀ ρ, P (p.placed ρ)) :
    ∀ q ∈ placedAll π ps, P q := by
  induction ps generalizing π with
  | nil => nofun
  | cons p ps ih => exact List.forall_mem_cons.2 ⟨h p (.head _) _, ih fun q hq => h q (.tail _ hq)⟩

theorem forall₂_placedAll {R : Piece → Piece → Prop} {ps : List Piece}
    (h : ∀ p ∈ ps, ∀ ρ ρ', R (p.placed ρ) (p.placed ρ')) :
    List.Forall₂ R (placedAll π ps) (placedAll π' ps) := by
  induction ps generalizing π π' with
  | nil => exact .nil
  | cons p ps ih => exact .cons (h p (.head _) _ _) (ih fun q hq => h q (.tail _ hq))

theorem Seq.forall_placed {P : Piece → Prop} {s : Seq} (h : ∀ p ∈ s.pieces, ∀ ρ, P (p.placed ρ)) :
    ∀ q ∈ (s.placed π).pieces, P q := by
  cases s with
  | items xs => exact forall_placedAll h
  | spread host xs =>
    exact List.forall_mem_cons.2 ⟨h host (.head _) _, forall_placedAll fun p hp => h p (.tail _ hp)⟩
  | single host => exact List.forall_mem_singleton.2 (h host (.head _) _)

/-- The pieces right below a form that is placed are those of the form, placed. -/
theorem Form.forall_placed {P : Piece → Prop} {f : Form}
    (h : ∀ p ∈ f.pieces, ∀ ρ, P (p.placed ρ)) : ∀ q ∈ (f.placed π).pieces, P q := by
  cases f with
  | this => nofun
  | leaf _ a | continueTo a | breakTo a | returns a | throws a | exprStatement a =>
    exact List.forall_mem_singleton.2 (h a (.head _) _)
  | bracket a b | dot a b | varDecl a b | doWhile a b | whileDo a b | withDo a b | label a b
  | comma a b =>
    exact List.forall_mem_cons.2 ⟨h a (.head _) _, List.forall_mem_singleton.2
      (h b (.tail _ (.head _)) _)⟩
  | assign a b c | unary a b c | binary a b c | conditional a b c | ifThen a b c | forIn a b c
  | tryDo a b c =>
    exact List.forall_mem_cons.2 ⟨h a (.head _) _, List.forall_mem_cons.2
      ⟨h b (.tail _ (.head _)) _, List.forall_mem_singleton.2 (h c (.tail _ (.tail _ (.head _))) _)⟩⟩
  | forLoop a b c d =>
    exact List.forall_mem_cons.2 ⟨h a (.head _) _, List.forall_mem_cons.2
      ⟨h b (.tail _ (.head _)) _, List.forall_mem_cons.2 ⟨h c (.tail _ (.tail _ (.head _))) _,
        List.forall_mem_singleton.2 (h d (.tail _ (.tail _ (.tail _ (.head _)))) _)⟩⟩⟩
  | group | array | object | defaultCase | finallyDo => exact Seq.forall_placed h
  | newExpr x s | call x s | getter x s | caseOf x s | catchDo x s =>
    exact List.forall_mem_cons.2 ⟨h x (.head _) _, Seq.forall_placed fun p hp => h p (.tail _ hp)⟩
  | setter n ps b | function _ n ps b =>
    have hps := Seq.forall_placed (π := π.at 1) fun p hp => h p (.tail _ (List.mem_append_left _ hp))
    have hb := Seq.forall_placed (π := π.at 2) fun p hp => h p (.tail _ (List.mem_append_right _ hp))
    exact List.forall_mem_cons.2 ⟨h n (.head _) _, List.forall_mem_append.2 ⟨hps, hb⟩⟩
  | switch e cs d =>
    exact List.forall_mem_cons.2 ⟨h e (.head _) _, List.forall_mem_cons.2
      ⟨h d (.tail _ (.head _)) _, Seq.forall_placed fun p hp => h p (.tail _ (.tail _ hp))⟩⟩

theorem Piece.All.placed (hF : ∀ f ρ, F f → F (f.placed ρ)) {p : Piece} (h : p.All F A)
    (π : Placement) : (p.placed π).All F A := by
  induction h generalizing π with
  | atom ha => exact .atom ha
  | record hes => exact .record hes
  | items _ ih => exact .items (forall_placedAll ih)
  | node hf _ ih => exact .node (hF _ _ hf) (Form.forall_placed ih)

/-! What does not depend on addresses -/

theorem Form.className_placed (f : Form) (π : Placement) : (f.placed π).className = f.className := by
  cases f with
  | leaf k | group k | function k => cases k <;> rfl
  | _ => rfl

theorem Form.alike_quoted (f : Form) (m : Marks) (π π' : Placement) :
    Alike ((Piece.node f m).placed π).quoted ((Piece.node f m).placed π').quoted := by
  simp only [Piece.placed, Piece.quoted, Form.quoted, Form.className_placed, Option.map_some,
    Option.getD_some]
  exact (Alike.append (.same _) (.address _ _)).append (.same _)

theorem Piece.All.alike_quoted {p : Piece} (h : p.All F A) (π π' : Placement) :
    Alike (p.placed π).quoted (p.placed π').quoted := by
  induction h generalizing π π' with
  | atom | record => exact .same _
  | @items xs _ ih =>
    have hparts : List.Forall₂ Alike (quotedAll (placedAll π xs)) (quotedAll (placedAll π' xs)) := by
      rw [quotedAll_eq_map, quotedAll_eq_map, List.forall₂_map_left_iff, List.forall₂_map_right_iff]
      exact forall₂_placedAll ih
    exact (Alike.append (.same _) (alike_intercalate ", " hparts)).append (.same _)
  | @node f m => exact f.alike_quoted m π π'

theorem Piece.All.alike_shown {p : Piece} (h : p.All F A) (π π' : Placement) :
    Alike (p.placed π).shown (p.placed π').shown := by
  cases p with
  | atom a => exact .same _
  | _ => exact h.alike_quoted π π'

end

section

variable (p : Piece) (π : Placement)

theorem isAbsent_placed : (p.placed π).isAbsent = p.isAbsent := by
  cases p <;> rfl

theorem isTruthy_placed : (p.placed π).isTruthy = p.isTruthy := by
  cases p with
  | items xs => cases xs <;> rfl
  | _ => rfl

theorem isLoopStart_placed : (p.placed π).isLoopStart = p.isLoopStart := by
  cases p with
  | node f m =>
    cases f with
    | leaf k => cases k <;> rfl
    | _ => rfl
  | _ => rfl

theorem isVarDecl_placed : (p.placed π).isVarDecl = p.isVarDecl := by
  cases p with
  | node f m => cases f <;> rfl
  | _ => rfl

theorem isWordOp_placed : isWordOp (p.placed π) = isWordOp p := by
  cases p <;> rfl

end

end Transpile.Script
