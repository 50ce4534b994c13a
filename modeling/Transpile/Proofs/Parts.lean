import Transpile.Script.Piece

/-! Properties of whole script trees: something holds of every form in the tree, and something of
every atom. -/

namespace Transpile.Script

theorem Form.isAlpha_className (f : Form) : f.className.toList.all Char.isAlpha = true := by
  have literal {cs : List Char} (h : cs.all Char.isAlpha = true) :
      (String.ofList cs).toList.all Char.isAlpha = true := by
    rwa [String.toList_ofList]
  unfold Form.className
  split <;> exact literal rfl

theorem isAlphanum_of_mem_toDigits {n : Nat} {c : Char} (h : c ∈ Nat.toDigits 16 n) :
    c.isAlphanum = true := by
  have hdigit : ∀ d < 16, (Nat.digitChar d).isAlphanum = true := by decide
  induction n using Nat.strongRecOn with
  | ind n ih =>
    rw [Nat.toDigits_eq_if (by decide)] at h
    split at h
    · next hn => exact List.mem_singleton.1 h ▸ hdigit n hn
    · rcases List.mem_append.1 h with h | h
      · exact ih (n / 16) (by omega) h
      · exact List.mem_singleton.1 h ▸ hdigit _ (Nat.mod_lt n (by decide))

/-- The characters that forms are quoted with. -/
def isLabelChar (c : Char) : Bool := c.isAlphanum || [' ', '<', '.', '>'].contains c

theorem Form.isLabelChar_quoted (f : Form) (m : Marks) :
    (f.quoted m).toList.all isLabelChar = true := by
  have literal {cs : List Char} (h : cs.all isLabelChar = true) :
      (String.ofList cs).toList.all isLabelChar = true := by
    rwa [String.toList_ofList]
  have hname : f.className.toList.all isLabelChar = true := List.all_eq_true.2 fun c hc => by
    simp [isLabelChar, Char.isAlphanum, List.all_eq_true.1 f.isAlpha_className c hc]
  have haddress : ((m.place.map addressText).getD "").toList.all isLabelChar = true := by
    cases m.place with
    | none => rfl
    | some n =>
      have hat : " at 0x".toList.all isLabelChar = true := literal rfl
      have hdigits : (String.ofList (Nat.toDigits 16 n)).toList.all isLabelChar = true :=
        literal (List.all_eq_true.2 fun c hc => by simp [isLabelChar, isAlphanum_of_mem_toDigits hc])
      simp only [Option.map_some, Option.getD_some, addressText, String.toList_append,
        List.all_append, hat, hdigits, Bool.and_self]
  have hopen : "<cobra.ast.".toList.all isLabelChar = true := literal rfl
  have hword : " object".toList.all isLabelChar = true := literal rfl
  have hclose : ">".toList.all isLabelChar = true := literal rfl
  simp only [Form.quoted, String.toList_append, List.all_append, hopen, hname, hword, haddress,
    hclose, Bool.and_self]

theorem quotedAll_eq_map (ps : List Piece) : quotedAll ps = ps.map Piece.quoted := by
  induction ps with
  | nil => rfl
  | cons p ps ih => rw [quotedAll, ih, List.map_cons]

/-- What stands in the place of a list, with the parts it is read as. -/
def Seq.pieces : Seq → List Piece
  | .items xs => xs
  | .spread host xs => host :: xs
  | .single host => [host]

/-- The pieces right below a form, operators included. -/
def Form.pieces : Form → List Piece
  | .leaf _ v => [v]
  | .group _ s | .array s | .object s | .defaultCase s | .finallyDo s => s.pieces
  | .newExpr x s | .call x s | .getter x s | .caseOf x s | .catchDo x s => x :: s.pieces
  | .bracket a b | .dot a b | .varDecl a b | .doWhile a b | .whileDo a b | .withDo a b | .label a b
  | .comma a b => [a, b]
  | .assign a b c | .unary a b c | .binary a b c | .conditional a b c | .ifThen a b c
  | .forIn a b c | .tryDo a b c => [a, b, c]
  | .forLoop a b c d => [a, b, c, d]
  | .setter n ps b | .function _ n ps b => n :: (ps.pieces ++ b.pieces)
  | .continueTo x | .breakTo x | .returns x | .throws x | .exprStatement x => [x]
  | .switch e cs d => e :: d :: cs.pieces
  | .this => []

theorem Form.value?_mem {f : Form} {v : Piece} (h : f.value? = some v) : v ∈ f.pieces := by
  cases f <;> simp_all [Form.value?, Form.pieces]

/-- `F` holds of every form in the tree, and `A` of every atom. -/
inductive Piece.All (F : Form → Prop) (A : Atom → Prop) : Piece → Prop
  | atom {a : Atom} : A a → Piece.All F A (.atom a)
  | record {es : List (String × Atom)} : (∀ e ∈ es, A e.2) → Piece.All F A (.record es)
  | items {xs : List Piece} : (∀ x ∈ xs, Piece.All F A x) → Piece.All F A (.items xs)
  | node {f : Form} {m : Marks} : F f → (∀ q ∈ f.pieces, Piece.All F A q) →
    Piece.All F A (.node f m)

namespace Piece

variable {F : Form → Prop} {A : Atom → Prop}

theorem all_atom_iff {a : Atom} : (Piece.atom a).All F A ↔ A a :=
  ⟨fun | .atom h => h, .atom⟩

theorem all_node_iff {f : Form} {m : Marks} :
    (Piece.node f m).All F A ↔ F f ∧ ∀ q ∈ f.pieces, q.All F A :=
  ⟨fun | .node hf hps => ⟨hf, hps⟩, fun h => .node h.1 h.2⟩

theorem All.inParens {p : Piece} (h : p.All F A) : p.inParens.All F A := by
  cases h with
  | node hf hps => exact .node hf hps
  | atom ha => exact .atom ha
  | record hes => exact .record hes
  | items hxs => exact .items hxs

theorem All.declare {p q : Piece} (h : p.All F A) (hq : p.declare = .ok q) : q.All F A := by
  cases h with
  | node hf hps =>
    cases hq
    exact .node hf hps
  | _ => cases hq

theorem All.value {p v : Piece} (h : p.All F A) (hv : p.value = .ok v) : v.All F A := by
  cases h with
  | @node f m hf hps =>
    unfold Piece.value at hv
    cases hf : f.value? with
    | none => simp [hf] at hv
    | some w =>
      obtain rfl : w = v := by simpa [hf] using hv
      exact hps w (f.value?_mem hf)
  | _ => cases hv

end Piece

/-! Sequences -/

def Seq.All (F : Form → Prop) (A : Atom → Prop) (s : Seq) : Prop := ∀ p ∈ s.pieces, p.All F A

section

variable {F : Form → Prop} {A : Atom → Prop} {s : Seq} {ps : List Piece}

theorem Seq.All.host (h : s.All F A) : s.host.All F A := by
  cases s with
  | items xs => exact .items h
  | spread p xs => exact h p (.head _)
  | single p => exact h p (.head _)

theorem Seq.All.parts (h : s.All F A) (hps : s.parts? = some ps) : ∀ p ∈ ps, p.All F A := by
  cases s with
  | items xs =>
    cases hps
    exact h
  | spread p xs =>
    cases hps
    exact fun q hq => h q (.tail _ hq)
  | single p => cases hps

theorem Seq.All.members (h : s.All F A) (hps : s.members? = some ps) : ∀ p ∈ ps, p.All F A := by
  cases s with
  | items xs =>
    cases hps
    exact h
  | _ => cases hps

/-- What reading a form as a list gives are pieces of the form. -/
theorem Form.all_parts {f : Form} (h : ∀ p ∈ f.pieces, p.All F A) (hps : f.parts? = some ps) :
    ∀ p ∈ ps, p.All F A := by
  cases f with
  | group | array | object | defaultCase | finallyDo => exact Seq.All.parts h hps
  | newExpr c s | catchDo c s =>
    cases hps
    have hs : s.host.All F A := Seq.All.host fun p hp => h p (.tail _ hp)
    simpa [h c (.head _)] using hs
  | call c s | getter c s | caseOf c s =>
    obtain ⟨xs, hxs, rfl⟩ := Option.map_eq_some_iff.1 hps
    have hs := Seq.All.members (fun p hp => h p (.tail _ hp)) hxs
    simpa [h c (.head _)] using hs
  | setter n params body | function _ n params body =>
    obtain ⟨xs, hxs, hps⟩ := Option.bind_eq_some_iff.1 hps
    obtain ⟨ys, hys, hps⟩ := Option.bind_eq_some_iff.1 hps
    cases hps
    have hx := Seq.All.members (fun p hp => h p (.tail _ (List.mem_append_left _ hp))) hxs
    have hy := Seq.All.members (fun p hp => h p (.tail _ (List.mem_append_right _ hp))) hys
    intro p hp
    rcases List.mem_append.1 hp with hp | hp
    · rcases List.mem_cons.1 hp with rfl | hp
      · exact h p (.head _)
      · exact hx p hp
    · exact hy p hp
  | switch e cs d =>
    obtain ⟨xs, hxs, rfl⟩ := Option.map_eq_some_iff.1 hps
    have hx := Seq.All.members (fun p hp => h p (.tail _ (.tail _ hp))) hxs
    intro p hp
    simp only [List.cons_append, List.mem_cons, List.mem_append, List.not_mem_nil, or_false] at hp
    rcases hp with rfl | hp | rfl
    · exact h p (.head _)
    · exact hx p hp
    · exact h p (.tail _ (.head _))
  | leaf | this =>
    cases hps
    simp
  | assign op l r | binary op l r =>
    cases hps
    exact fun p hp => h p (.tail _ hp)
  | unary op v t =>
    cases hps
    intro p hp
    obtain rfl := List.mem_singleton.1 hp
    exact h p (.tail _ (.head _))
  | _ =>
    cases hps
    exact h

theorem Seq.all_ofPiece {f : Form} {m : Marks} (h : (Piece.node f m).All F A) :
    (Seq.ofPiece (.node f m)).All F A := by
  cases hps : f.parts? with
  | none =>
    simp only [Seq.ofPiece, Piece.parts?, hps, Option.map_none]
    exact fun p hp => List.mem_singleton.1 hp ▸ h
  | some ps =>
    simp only [Seq.ofPiece, Piece.parts?, hps, Option.map_some]
    intro p hp
    rcases List.mem_cons.1 hp with rfl | hp
    · exact h
    · exact Form.all_parts (Piece.all_node_iff.1 h).2 hps p (List.mem_filter.1 hp).1

theorem ok_of_bind {α β : Type} {x : Except Cause α} {f : α → Except Cause β} {b : β}
    (h : x >>= f = .ok b) : ∃ a, x = .ok a ∧ f a = .ok b := by
  cases x with
  | error c => cases h
  | ok a => exact ⟨a, rfl, h⟩

theorem Piece.all_mapM_declare {qs : List Piece}
    (h : ∀ p ∈ ps, ∀ q, p.declare = .ok q → q.All F A) (hqs : ps.mapM Piece.declare = .ok qs) :
    ∀ q ∈ qs, q.All F A := by
  induction ps generalizing qs with
  | nil =>
    cases hqs
    simp
  | cons p ps ih =>
    rw [List.mapM_cons] at hqs
    obtain ⟨q, hq, hqs⟩ := ok_of_bind hqs
    obtain ⟨rs, hrs, hqs⟩ := ok_of_bind hqs
    cases hqs
    simpa [h p (by simp) q hq] using ih (fun p hp => h p (by simp [hp])) hrs

theorem Seq.All.declare {s' : Seq} (h : s.All F A) (hs : s.declare = .ok s') : s'.All F A := by
  cases s with
  | items xs =>
    obtain ⟨ys, hys, hs⟩ := ok_of_bind hs
    cases hs
    exact Piece.all_mapM_declare (fun p hp _ => (h p hp).declare) hys
  | spread p xs =>
    obtain ⟨ys, hys, hs⟩ := ok_of_bind hs
    cases hs
    have hparts := Piece.all_mapM_declare (fun q hq _ => (h q (.tail _ hq)).declare) hys
    simpa [Seq.All, Seq.pieces, h p (.head _)] using hparts
  | single p => cases hs

/-- Only forms can be declared, so no parts of other pieces are left. -/
theorem Seq.all_of_declare_ofPiece {p : Piece} {s' : Seq} (h : p.All F A)
    (hs : (Seq.ofPiece p).declare = .ok s') : s'.All F A := by
  have hspread {xs : List Piece} (hxs : ∀ x ∈ xs, ∃ a, x = .atom a)
      (hs : (Seq.spread p xs).declare = .ok s') : s'.All F A := by
    obtain ⟨ys, hys, hs⟩ := ok_of_bind hs
    cases hs
    have hparts : ∀ y ∈ ys, y.All F A := Piece.all_mapM_declare (fun x hx q hq => by
      obtain ⟨a, rfl⟩ := hxs x hx
      cases hq) hys
    simpa [Seq.All, Seq.pieces, h] using hparts
  cases h with
  | node hf hps => exact (Seq.all_ofPiece (.node hf hps)).declare hs
  | items hxs => exact Seq.All.declare (s := .items _) hxs hs
  | @record es hes =>
    refine hspread (fun x hx => ?_) hs
    obtain ⟨e, -, rfl⟩ := List.mem_map.1 hx
    exact ⟨_, rfl⟩
  | @atom a ha =>
    cases a with
    | text t => exact hspread (by simp) hs
    | _ => cases hs

end

end Transpile.Script
