import Transpile.Proofs.Rendering.Trees

/-! Array literals read back. A literal is read by its commas: each one ends a cell, a cell without
text is a hole, and after the last comma nothing is no cell. Main statement: what is read are the
texts of the elements, with a hole where one was left out. -/

namespace Transpile.Script

open Render

/-- What stands before a comma: the text of an element, or a hole. -/
def cellOf (cs : List Char) : Option String := if cs.isEmpty then none else some (String.ofList cs)

/-- The cells of a literal, given what was read since the last comma. -/
def readCells (cell : List Char) : List Char → List (Option String)
  | [] => if cell.isEmpty then [] else [cellOf cell]
  | c :: cs => if c = ',' then cellOf cell :: readCells [] cs else readCells (cell ++ [c]) cs

/-- The cells between the brackets of an array literal. -/
def readArray? (s : String) : Option (List (Option String)) :=
  match s.toList with
  | '[' :: cs => if cs.getLast? = some ']' then some (readCells [] cs.dropLast) else none
  | _ => none

example : readArray? "[a,,b]" = some [some "a", none, some "b"] ∧ readArray? "[,]" = some [none] ∧
    readArray? "[a,]" = some [some "a"] ∧ readArray? "[]" = some [] := by
  decide

theorem readCells_comma {cs : List Char} (hcs : ',' ∉ cs) (cell rest : List Char) :
    readCells cell (cs ++ ',' :: rest) = cellOf (cell ++ cs) :: readCells [] rest := by
  induction cs generalizing cell with
  | nil => simp [readCells]
  | cons c cs ih =>
    obtain ⟨hc, hcs⟩ := not_or.1 (List.mem_cons.not.1 hcs)
    rw [List.cons_append, readCells, if_neg (Ne.symm hc), ih hcs, List.append_assoc]
    rfl

theorem readCells_end {cs : List Char} (hcs : ',' ∉ cs) (cell : List Char) :
    readCells cell cs = if (cell ++ cs).isEmpty then [] else [cellOf (cell ++ cs)] := by
  induction cs generalizing cell with
  | nil => rw [readCells, List.append_nil]
  | cons c cs ih =>
    obtain ⟨hc, hcs⟩ := not_or.1 (List.mem_cons.not.1 hcs)
    rw [readCells, if_neg (Ne.symm hc), ih hcs, List.append_assoc]
    rfl

theorem cellOf_toList {s : String} (hs : s ≠ "") : cellOf s.toList = some s := by
  simp [cellOf, hs]

theorem readArray?_brackets (t : String) :
    readArray? ("[" ++ t ++ "]") = some (readCells [] t.toList) := by
  have hlist : ("[" ++ t ++ "]").toList = '[' :: (t.toList ++ [']']) := by simp
  simp [readArray?, hlist]

/-! Writing -/

/-- An element that is left out. -/
def isElision : Piece → Bool
  | .node (.leaf .elision _) _ => true
  | _ => false

/-- The cell of an item at the level: a hole, or the text that it is rendered as. -/
def IsCell (width : Int) (level : Nat) (p : Piece) (c : Option String) : Prop :=
  if isElision p then c = none else ∃ s, c = some s ∧ (p.renderAt width level).1 = .ok (.text s)

/-- The item is left out, or is rendered as a text that can stand between commas. -/
def IsItem (width : Int) (level : Nat) (p : Piece) : Prop :=
  isElision p = true ∨
    ∃ s, (p.renderAt width level).1 = .ok (.text s) ∧ s ≠ "" ∧ ',' ∉ s.toList

theorem isEmpty_actionsOf (ps : List Piece) : (actionsOf ps).isEmpty = ps.isEmpty := by
  cases ps <;> rfl

theorem shows_of_renderAt {width : Int} {level : Nat} {p r : Piece}
    (h : (p.renderAt width level).1 = .ok r) : Shows (unitOf width) level p.render r := by
  have hrun : p.render (unitOf width) level = (.ok r, (p.renderAt width level).2) := by
    rw [← h]
    rfl
  rwa [level_of_render hrun] at hrun

theorem shows_cells_hole {unit : String} {level : Nat} {p : Piece} {ps : List Piece} {t : String}
    (hp : isElision p = true) (ht : Shows unit level (cells (actionsOf ps)) t) :
    Shows unit level (cells (actionsOf (p :: ps))) ("," ++ t) := by
  unfold isElision at hp
  split at hp
  · exact shows_bind (shows_pure ",") (shows_bind ht (shows_pure _))
  · cases hp

theorem shows_cells_item {unit : String} {level : Nat} {p : Piece} {ps : List Piece} {s t : String}
    (hp : isElision p = false) (hs : Prints unit level p s)
    (ht : Shows unit level (cells (actionsOf ps)) t) :
    Shows unit level (cells (actionsOf (p :: ps)))
      ((if ps.isEmpty then s else s ++ ",") ++ t) := by
  unfold actionsOf cells
  rw [isEmpty_actionsOf]
  split
  · next hpiece =>
    obtain rfl : p = _ := hpiece
    cases hp
  · refine shows_bind hs (shows_bind (shows_textOf s) (shows_bind (shows_pure _) ?_))
    exact shows_bind ht (shows_pure _)

/-- The cells of the items are written, and read back one by one. -/
theorem cells_read_back {width : Int} {level : Nat} {ps : List Piece}
    (h : ∀ p ∈ ps, IsItem width level p) :
    ∃ t, Shows (unitOf width) level (cells (actionsOf ps)) t ∧
      List.Forall₂ (IsCell width level) ps (readCells [] t.toList) := by
  induction ps with
  | nil => exact ⟨"", shows_pure _, .nil⟩
  | cons p ps ih =>
    obtain ⟨t, ht, hcells⟩ := ih fun q hq => h q (by simp [hq])
    by_cases hp : isElision p = true
    · refine ⟨"," ++ t, shows_cells_hole hp ht, ?_⟩
      rw [String.toList_append]
      exact .cons (by simp [IsCell, hp, cellOf]) hcells
    · obtain ⟨s, hs, hne, hcomma⟩ := (h p (.head _)).resolve_left hp
      have hcell : IsCell width level p (cellOf s.toList) := by
        rw [cellOf_toList hne]
        simpa [IsCell, hp] using hs
      refine ⟨_, shows_cells_item (by simpa using hp) (shows_of_renderAt hs) ht, ?_⟩
      cases ps with
      | nil =>
        -- nothing follows, so the comma is left out and the text ends the last cell
        obtain rfl : t = "" := shows_unique ht (shows_pure _)
        simpa [readCells_end hcomma, hne] using hcell
      | cons q ps =>
        have hlist : (s ++ "," ++ t).toList = s.toList ++ ',' :: t.toList := by simp
        simp only [List.isEmpty_cons, Bool.false_eq_true, if_false]
        rw [hlist, readCells_comma hcomma]
        exact .cons hcell hcells

/-- An array whose items are left out or can stand between commas is rendered, and reading the text
gives a hole for each item that is left out and the text of every other. -/
theorem array_read_back {width : Int} {level : Nat} {ps : List Piece}
    (h : ∀ p ∈ ps, IsItem width level p) (m : Marks) :
    ∃ t cs, (Piece.node (.array (.items ps)) m).renderAt width level = (.ok (.text t), level) ∧
      readArray? t = some cs ∧ List.Forall₂ (IsCell width level) ps cs := by
  obtain ⟨t, ht, hcells⟩ := cells_read_back h
  refine ⟨"[" ++ t ++ "]", readCells [] t.toList, ?_, readArray?_brackets t, hcells⟩
  exact shows_bind (shows_pure _) (shows_bind ht (shows_say _))

/-- Items with holes between them and after them. -/
def gappedItems : List Piece :=
  [.node (.leaf .elision (.text ",")) {}, .node (.leaf .ident (.text "a")) {},
    .node (.leaf .elision (.text ",")) {}, .node (.leaf .elision (.text ",")) {},
    .node (.leaf .ident (.text "b")) {}, .node (.leaf .elision (.text ",")) {}]

theorem gappedItems_read_back : (∀ p ∈ gappedItems, IsItem 4 2 p) ∧
    (Piece.node (.array (.items gappedItems)) {}).renderAt 4 2 = (.ok (.text "[,a,,,b,,]"), 2) ∧
    List.Forall₂ (IsCell 4 2) gappedItems [none, some "a", none, none, some "b", none] := by
  have hitems : ∀ p ∈ gappedItems, IsItem 4 2 p := by
    simp only [gappedItems, List.mem_cons, List.not_mem_nil, or_false, forall_eq_or_imp, forall_eq]
    exact ⟨.inl rfl, .inr ⟨"a", rfl, by decide⟩, .inl rfl, .inl rfl, .inr ⟨"b", rfl, by decide⟩,
      .inl rfl⟩
  have hrun : (Piece.node (.array (.items gappedItems)) {}).renderAt 4 2 =
      (.ok (.text "[,a,,,b,,]"), 2) := rfl
  obtain ⟨t, cs, ht, hcs, hcells⟩ := array_read_back hitems {}
  obtain rfl : "[,a,,,b,,]" = t := by simpa using hrun.symm.trans ht
  have hread : readArray? "[,a,,,b,,]" = some [none, some "a", none, none, some "b", none] := by
    decide
  obtain rfl := Option.some.inj (hread.symm.trans hcs)
  exact ⟨hitems, hrun, hcells⟩

end Transpile.Script
