import Transpile.Proofs.Camel
import Transpile.Proofs.Progress.Expressions
import Transpile.Proofs.Reading.Literal
import Transpile.Proofs.Rendering.Chains

/-! Strings as keys. A dictionary takes the literal of a key for a name, a subscript leaves that of an
index as it is. Main statement: which strings are written alike in both places. -/

namespace Transpile.Script

open Render

section

variable {unit : String} {level : Nat}

theorem prints_bracket {t n : Piece} {a b : String} (ht : Prints unit level t a)
    (hn : Prints unit level n b) (m : Marks) :
    Prints unit level (.node (.bracket t n) m) (a ++ "[" ++ b ++ "]") :=
  shows_bind ht (shows_bind hn (shows_say _))

theorem prints_property {k v : Piece} {a b : String} (hk : Prints unit level k a)
    (hv : Prints unit level v b) : Prints unit level (Walk.assignTo ":" k v) (a ++ ": " ++ b) := by
  have hgap : a ++ ": " ++ b = a ++ "" ++ ":" ++ " " ++ b := by
    simp only [String.append_empty, String.append_assoc]
    rfl
  rw [hgap]
  exact shows_bind hk (shows_bind hv (shows_say _))

/-- The properties of an object stand on lines of their own, two levels deeper. -/
theorem prints_object {p : Piece} {ps : List Piece} {ss : List String}
    (h : List.Forall₂ (Prints unit (level + 2)) (p :: ps) ss) (m : Marks) :
    Prints unit level (.node (.object (.items (p :: ps))) m)
      ("\x7b\n" ++ ",\n".intercalate (ss.map (marginOf unit (level + 2) ++ ·)) ++ "\n" ++
        marginOf unit level ++ "\x7d") := by
  have hbody : Shows unit level (indented ",\n" (pure (actionsOf (p :: ps)))) _ :=
    shows_indented_iff.2 (shows_lines_iff.2 ⟨ss, h, rfl⟩)
  have hclose : Shows unit level margin (marginOf unit level) := rfl
  exact shows_bind hbody (shows_bind hclose (shows_say _))

end

end Transpile.Script

namespace Transpile.Walk

open Script Source

/-- A tree that comes to a form with a text. -/
structure Translates (o : Options) (I : State → Prop) (ops : Stack Kind) (t : Tree) : Prop where
  isNode : t.isNode = true
  gives : Gives o I ops (visit t) fun p => IsForm p ∧ Printable p

theorem IsExpr.translates {o : Options} {ops : Stack Kind} {t : Tree} (h : IsExpr t) :
    Translates o Orderly ops t :=
  ⟨h.isNode, Gives.mono (gives_expr orderly_roomy h ops) fun _ hp => ⟨hp.form, hp.printable⟩⟩

/-- The literal of a string. -/
def literalOf (s : String) : String := "\"" ++ s ++ "\""

/-- As a name a literal is what it was exactly if camel case is off or finds no underscore in it. -/
theorem nameIn_literalOf_iff {o : Options} {s : String} :
    nameIn o (literalOf s) = literalOf s ↔ o.camelCase = false ∨ '_' ∉ s.toList := by
  have hmem : '_' ∈ (literalOf s).toList ↔ '_' ∈ s.toList := by simp [literalOf]
  unfold nameIn
  cases o.camelCase with
  | false => simp
  | true =>
    simp only [if_true, Bool.true_eq_false, false_or, ← hmem]
    constructor
    · intro h
      rw [← h]
      exact Text.underscore_notMem_camel _
    · exact Text.camel_of_notMem

section

variable {o : Options} {I : State → Prop} {ops : Stack Kind} (hI : Stable I)
include hI

theorem gives_literal (s : String) :
    Gives o I ops (visit (.node .str [.text s])) (· = leaf .string (literalOf s)) :=
  gives_string ops hI s

/-- A dictionary of one entry under a string. -/
theorem gives_entry (s : String) {v : Tree} (hv : Translates o I ops v) :
    Gives o I ops (visit (.node .dict [.list [.node .str [.text s]], .list [v]])) fun p =>
      ∃ value, Printable value ∧
        p = (Form.object (.items [assignTo ":" (word (nameIn o (literalOf s))) value])).piece := by
  have hkey : ∀ p, p = leaf .string (literalOf s) → IsForm p ∧ ∃ t, p.value = .ok (.text t) := by
    rintro _ rfl
    exact ⟨isForm_piece (by simp), _, rfl⟩
  have hdict : Gives o I ops _ _ := gives_dictionary hI (f := fun _ => .node .str [.text s])
    (g := id) (P := fun _ p => p = leaf .string (literalOf s))
    (Q := fun _ p => IsForm p ∧ Printable p) (fun _ => hkey) (fun _ _ hp => hp.1)
    (fun _ (_ : _ ∈ [v]) => ⟨rfl, gives_literal hI s⟩)
    (List.forall_mem_singleton.2 ⟨hv.isNode, hv.gives⟩)
  refine Gives.mono hdict ?_
  rintro _ ⟨_, _, _ | ⟨rfl, _ | _⟩, _ | ⟨hvalue, _ | _⟩, rfl⟩
  exact ⟨_, hvalue.2, rfl⟩

/-- A subscript under a string. -/
theorem gives_lookup (s : String) {x ctx : Tree} (hx : Translates o I ops x) (hc : IsUse ctx) :
    Gives o I ops (visit (.node .subscript [x, .node .index [.node .str [.text s]], ctx])) fun p =>
      ∃ target, Printable target ∧
        p = (Form.bracket target (leaf .string (literalOf s))).piece := by
  have hform : ∀ p, p = leaf .string (literalOf s) → IsForm p := by
    rintro _ rfl
    exact isForm_piece (by simp)
  refine Gives.mono (gives_subscript hI hx.isNode rfl hc (fun _ hp => hp.1) hform hx.gives
    (gives_literal hI s)) ?_
  rintro _ ⟨target, _, htarget, rfl, rfl⟩
  exact ⟨target, htarget.2, rfl⟩

end

/-- Under every setting, in every state and at every width and level, a dictionary with the string as a
key and a subscript with it as an index come to texts with a literal in each: the dictionary has the
literal as a name of the source, the subscript has it as it is. The two are the same exactly if camel
case is off or the string holds no underscore. -/
theorem key_matches_index_iff (s : String) {o : Options} {I : State → Prop} (hI : Invariant I)
    {st : State} (hst : Ready st) (hnames : I st) {v x ctx : Tree}
    (hv : Translates o I st.operators v) (hx : Translates o I st.operators x) (hc : IsUse ctx) :
    let key := nameIn o (literalOf s)
    let index := literalOf s
    ∃ value target st₁ st₂,
      let dictionary := (Form.object (.items [assignTo ":" (word key) value])).piece
      let lookup := (Form.bracket target (leaf .string index)).piece
      run (visit (.node .dict [.list [.node .str [.text s]], .list [v]])) o st =
        (.ok dictionary, st₁) ∧
      run (visit (.node .subscript [x, .node .index [.node .str [.text s]], ctx])) o st =
        (.ok lookup, st₂) ∧
      (∀ unit level, ∃ shown, Prints unit (level + 2) value shown ∧
        Prints unit level dictionary ("\x7b\n" ++ marginOf unit (level + 2) ++ key ++ ": " ++ shown ++
          "\n" ++ marginOf unit level ++ "\x7d")) ∧
      (∀ unit level, ∃ shown, Prints unit level target shown ∧
        Prints unit level lookup (shown ++ "[" ++ index ++ "]")) ∧
      (key = index ↔ o.camelCase = false ∨ '_' ∉ s.toList) := by
  have hholding : Holding I st.operators st := ⟨hst, hnames, rfl⟩
  obtain ⟨_, st₁, hrun₁, -, value, hvalue, rfl⟩ := gives_entry hI.stable s hv st hholding
  obtain ⟨_, st₂, hrun₂, -, target, htarget, rfl⟩ := gives_lookup hI.stable s hx hc st hholding
  refine ⟨value, target, st₁, st₂, hrun₁, hrun₂, fun unit level => ?_, fun unit level => ?_,
    nameIn_literalOf_iff⟩
  · obtain ⟨_, hshows, shown, rfl⟩ := hvalue unit (level + 2)
    have hkey : Prints unit (level + 2) (word (nameIn o (literalOf s))) _ := prints_ident _ {}
    have hobject := prints_object (.cons (prints_property hkey hshows) .nil) {}
    exact ⟨shown, hshows, by simpa [Form.piece, String.append_assoc] using hobject⟩
  · obtain ⟨_, hshows, shown, rfl⟩ := htarget unit level
    have hindex : Prints unit level (leaf .string (literalOf s)) (literalOf s) := rfl
    exact ⟨shown, hshows, prints_bracket hshows hindex {}⟩

/-- In camel case, what is stored under `a_b` is looked up under another key. -/
theorem snakeKey_not_matched :
    Orderly {} ∧ IsExpr (.node .num [.atom (.number "1")]) ∧ IsExpr (.node .name [.text "d", .missing]) ∧
    ∃ value target st₁ st₂,
      run (visit (.node .dict [.list [.node .str [.text "a_b"]],
          .list [.node .num [.atom (.number "1")]]])) { camelCase := true } {} =
        (.ok (Form.object (.items [assignTo ":" (word "\"aB\"") value])).piece, st₁) ∧
      run (visit (.node .subscript [.node .name [.text "d", .missing],
          .node .index [.node .str [.text "a_b"]], .missing])) { camelCase := true } {} =
        (.ok (Form.bracket target (leaf .string "\"a_b\"")).piece, st₂) ∧
      "\"aB\"" ≠ "\"a_b\"" := by
  have hv : IsExpr (.node .num [.atom (.number "1")]) := .key .number
  have hx : IsExpr (.node .name [.text "d", .missing]) := .key (.name .missing)
  obtain ⟨value, target, st₁, st₂, hrun₁, hrun₂, -, -, hiff⟩ := key_matches_index_iff "a_b"
    orderly_invariant ready_start orderly_start (o := { camelCase := true }) hv.translates
    hx.translates .missing
  have hkey : nameIn { camelCase := true } (literalOf "a_b") = "\"aB\"" := by decide +kernel
  rw [hkey] at hrun₁ hiff
  refine ⟨orderly_start, hv, hx, value, target, st₁, st₂, hrun₁, hrun₂, fun h => ?_⟩
  rcases hiff.1 h with hoff | hnone
  · cases hoff
  · exact hnone (by decide +kernel)

end Transpile.Walk
