import Transpile.Proofs.Blocks
import Transpile.Proofs.Rendering.Trees

/-! Chains of conditionals. In the source each arm of a chain stands in the other arm of the one
before it. Main statement: the text has the arms one after another at the level of the first, each
with the statements of its own. -/

namespace Transpile.Script

open Render

/-- A test with the statements that it guards. -/
structure Arm (α : Type) where
  test : α
  body : List α

def Arm.map {α β : Type} (f : α → β) (a : Arm α) : Arm β := ⟨f a.test, a.body.map f⟩

/-- `P` holds of the test and of every statement. -/
def Arm.All {α : Type} (P : α → Prop) (a : Arm α) : Prop := P a.test ∧ ∀ x ∈ a.body, P x

/-! Texts -/

/-- The text of a block from those of its statements, each on a line two levels deeper. -/
def bracedText (unit : String) (level : Nat) (rows : List String) : String :=
  "\x7b\n" ++ "\n".intercalate (rows.map (marginOf unit (level + 2) ++ ·)) ++ "\n" ++
    marginOf unit level ++ "\x7d"

def armText (unit : String) (level : Nat) (a : Arm String) : String :=
  "if (" ++ a.test ++ ") " ++ bracedText unit level a.body

/-- The arms one after another, and what is done if none is taken. -/
def chainText (unit : String) (level : Nat) (arms : List (Arm String)) (rows : List String) :
    String :=
  " else ".intercalate (arms.map (armText unit level) ++
    if rows.isEmpty then [] else [bracedText unit level rows])

/-- The arm has these texts: the test at the level, the statements two levels deeper. -/
def ArmPrints (unit : String) (level : Nat) (a : Arm Piece) (b : Arm String) : Prop :=
  Prints unit level a.test b.test ∧ List.Forall₂ (Prints unit (level + 2)) a.body b.body

section

variable {α β : Type} {unit : String} {level : Nat}

/-! What is rendered, from what its parts are rendered as -/

theorem shows_bind_iff {w : Render α} {f : α → Render β} {P : α → Prop} (hw : Returns unit 0 0 w P)
    {b : β} : Shows unit level (w >>= f) b ↔
      ∃ a, Shows unit level w a ∧ Shows unit level (f a) b := by
  constructor
  · intro h
    obtain ⟨a, level1, h1, h2⟩ := run_bind_of_render h
    obtain ⟨rfl, -⟩ := hw level a level1 h1
    exact ⟨a, h1, h2⟩
  · rintro ⟨a, h1, h2⟩
    exact shows_bind h1 h2

theorem shows_pure_iff {a b : α} : Shows unit level (pure a) b ↔ b = a := by
  constructor
  · intro h
    exact shows_unique h (shows_pure a)
  · rintro rfl
    exact shows_pure b

theorem shows_say_iff {s t : String} : Shows unit level (say s) (.text t) ↔ t = s := by
  simp [say, shows_pure_iff]

/-- A part whose text is used further. -/
theorem shows_text_iff {p : Piece} {f : String → Render β} {b : β} :
    Shows unit level (do let s ← textOf (← p.render); f s) b ↔
      ∃ s, Prints unit level p s ∧ Shows unit level (f s) b := by
  rw [shows_bind_iff (steady_level unit p).run]
  constructor
  · rintro ⟨r, hr, h⟩
    obtain ⟨s, level1, hs, h⟩ := run_bind_of_render h
    unfold textOf at hs
    split at hs
    · cases hs
      exact ⟨_, hr, h⟩
    · cases hs
  · rintro ⟨s, hs, h⟩
    exact ⟨.text s, hs, h⟩

/-- An item on a line of its own. -/
def rowOf (x : Item) : Render String := do
  let m ← margin
  return m ++ (← textOf (← x.run))

theorem returns_rowOf {ps : List Piece} {x : Item} (hx : x ∈ actionsOf ps) :
    Returns unit 0 0 (rowOf x) fun _ => True := by
  have hrun := (steady_actionsOf (fun p _ => steady_level unit p) x hx).run
  refine returns_bind (returns_margin tracks_nothing fun _ => trivial) fun m _ => ?_
  refine returns_bind hrun fun p hp => returns_bind (returns_textOf hp) fun s _ => ?_
  exact returns_pure trivial

theorem shows_rowOf_iff {p : Piece} {w : Render String} {s : String} :
    Shows unit level (rowOf ⟨p, p.render, w⟩) s ↔
      ∃ row, Prints unit level p row ∧ s = marginOf unit level ++ row := by
  have hmargin : Shows unit level (rowOf ⟨p, p.render, w⟩) s ↔
      Shows unit level (do let t ← textOf (← p.render); pure (marginOf unit level ++ t)) s := .rfl
  simp only [hmargin, shows_text_iff, shows_pure_iff]

theorem shows_rows_iff {ps : List Piece} {ss : List String} :
    Shows unit level ((actionsOf ps).mapM rowOf) ss ↔
      ∃ rows, List.Forall₂ (Prints unit level) ps rows ∧ ss = rows.map (marginOf unit level ++ ·) := by
  induction ps generalizing ss with
  | nil => simp [actionsOf, shows_pure_iff]
  | cons p ps ih =>
    have hrest : Returns unit 0 0 ((actionsOf ps).mapM rowOf) _ :=
      returns_mapM fun x hx => returns_rowOf hx
    have hmem : ⟨p, p.render, p.renderCase⟩ ∈ actionsOf [p] := by simp [actionsOf]
    have hfirst : Returns unit 0 0 (rowOf ⟨p, p.render, p.renderCase⟩) _ := returns_rowOf hmem
    simp only [actionsOf, List.mapM_cons, shows_bind_iff hfirst, shows_bind_iff hrest, shows_pure_iff,
      shows_rowOf_iff, ih]
    constructor
    · rintro ⟨_, ⟨row, hrow, rfl⟩, _, ⟨rows, hrows, rfl⟩, rfl⟩
      exact ⟨row :: rows, .cons hrow hrows, rfl⟩
    · rintro ⟨_, _ | ⟨hrow, hrows⟩, rfl⟩
      exact ⟨_, ⟨_, hrow, rfl⟩, _, ⟨_, hrows, rfl⟩, rfl⟩

theorem shows_lines_iff {sep : String} {ps : List Piece} {s : String} :
    Shows unit level (lines sep (actionsOf ps)) s ↔ ∃ rows, List.Forall₂ (Prints unit level) ps rows ∧
      s = sep.intercalate (rows.map (marginOf unit level ++ ·)) := by
  have hrows : Returns unit 0 0 ((actionsOf ps).mapM rowOf) _ :=
    returns_mapM fun x hx => returns_rowOf hx
  have hlines : lines sep (actionsOf ps) =
      (do return sep.intercalate (← (actionsOf ps).mapM rowOf)) := rfl
  simp only [hlines, shows_bind_iff hrows, shows_rows_iff, shows_pure_iff]
  constructor
  · rintro ⟨_, ⟨rows, hrows, rfl⟩, rfl⟩
    exact ⟨rows, hrows, rfl⟩
  · rintro ⟨rows, hrows, rfl⟩
    exact ⟨_, ⟨rows, hrows, rfl⟩, rfl⟩

/-- The lines of a body are those at the deeper level. -/
theorem shows_indented_iff {sep : String} {ps : List Piece} {s : String} :
    Shows unit level (indented sep (pure (actionsOf ps))) s ↔
      Shows unit (level + 2) (lines sep (actionsOf ps)) s := by
  have hlines : Returns unit 0 0 (lines sep (actionsOf ps)) _ :=
    returns_lines tracks_nothing (fun _ => trivial) (fun _ => trivial)
      (steady_actionsOf fun p _ => steady_level unit p)
  have hrun : indented sep (pure (actionsOf ps)) unit level =
      (lines sep (actionsOf ps) >>= fun s => do shallower; return s) unit (level + 2) := rfl
  unfold Shows
  rw [hrun]
  constructor
  · intro h
    obtain ⟨t, level1, h1, h2⟩ := run_bind_of_render h
    obtain ⟨rfl, -⟩ := hlines _ t level1 h1
    cases h2
    exact h1
  · intro h
    rw [bind_of_ok h]
    rfl

theorem prints_block_iff {ps : List Piece} (hps : ∀ p ∈ ps, p.isAbsent = false) {s : String} :
    Prints unit level (Walk.block ps) s ↔ ∃ rows, List.Forall₂ (Prints unit (level + 2)) ps rows ∧
      s = bracedText unit level rows := by
  have hbody : Returns unit 0 0 (indented "\n" (pure (actionsOf ps))) _ :=
    returns_indented tracks_nothing (fun _ => trivial) (fun _ => trivial)
      (returns_pure (steady_actionsOf fun p _ => steady_level unit p))
  have hrender : (Walk.block ps).render =
      (do say (← braces (← indented "\n" (pure (present (actionsOf ps)))))) := rfl
  have hsay (t : String) : Shows unit level (say t) (.text s) ↔ s = t := shows_say_iff
  have hbraces (t : String) : Shows unit level (do say (← braces t)) (.text s) ↔
      s = "\x7b\n" ++ t ++ "\n" ++ marginOf unit level ++ "\x7d" := hsay _
  unfold Prints
  rw [hrender, present_actionsOf hps, shows_bind_iff hbody]
  simp only [shows_indented_iff, shows_lines_iff, hbraces]
  constructor
  · rintro ⟨_, ⟨rows, hrows, rfl⟩, rfl⟩
    exact ⟨rows, hrows, rfl⟩
  · rintro ⟨rows, hrows, rfl⟩
    exact ⟨_, ⟨rows, hrows, rfl⟩, rfl⟩

/-- An arm, and what follows it if it has another. -/
theorem prints_ifThen_iff {a : Arm Piece} (ha : a.All (·.isAbsent = false)) {no : Piece}
    {s : String} :
    Prints unit level (Form.ifThen a.test (Walk.block a.body) no).piece s ↔
      ∃ x, ArmPrints unit level a x ∧
        if no.isAbsent then s = armText unit level x
        else ∃ t, Prints unit level no t ∧ s = armText unit level x ++ " else " ++ t := by
  have hrender : (Form.ifThen a.test (Walk.block a.body) no).piece.render = (do
      let test ← if a.test.isAbsent then pure "" else textOf (← a.test.render)
      let yes ← textOf (← (Walk.block a.body).render)
      let no ← if no.isAbsent then pure "" else do pure (" else " ++ (← textOf (← no.render)))
      say ("if (" ++ test ++ ") " ++ yes ++ no)) := rfl
  have htail (head : String) : Shows unit level (do
        let no ← if no.isAbsent then pure "" else do pure (" else " ++ (← textOf (← no.render)))
        say (head ++ no)) (.text s) ↔
      if no.isAbsent then s = head else ∃ t, Prints unit level no t ∧ s = head ++ " else " ++ t := by
    split_ifs
    · simp only [pure_bind, shows_say_iff, String.append_empty]
    · simp only [pure_bind, shows_text_iff, shows_say_iff, String.append_assoc]
  unfold Prints
  rw [hrender, ha.1]
  simp only [Bool.false_eq_true, if_false, shows_text_iff, prints_block_iff ha.2, htail]
  constructor
  · rintro ⟨test, htest, _, ⟨rows, hrows, rfl⟩, hs⟩
    exact ⟨⟨test, rows⟩, ⟨htest, hrows⟩, hs⟩
  · rintro ⟨x, ⟨htest, hrows⟩, hs⟩
    exact ⟨x.test, htest, _, ⟨x.body, hrows, rfl⟩, hs⟩

/-! Chains -/

/-- Arms, each in the other arm of the one before it, and what stands in the last. -/
def chainPiece (final : Piece) : List (Arm Piece) → Piece
  | [] => final
  | a :: as => (Form.ifThen a.test (Walk.block a.body) (chainPiece final as)).piece

/-- What stands in the other arm of the last one: nothing, or a block. -/
def finalPiece (ps : List Piece) : Piece := if ps.isEmpty then .absent else Walk.block ps

section

variable (unit : String) (level : Nat) (x y : Arm String) (xs : List (Arm String))

theorem chainText_end : chainText unit level [x] [] = armText unit level x := by
  simp [chainText]

theorem chainText_else (row : String) (rows : List String) :
    chainText unit level [x] (row :: rows) =
      armText unit level x ++ " else " ++ bracedText unit level (row :: rows) := by
  simp [chainText]

theorem chainText_more (rows : List String) : chainText unit level (x :: y :: xs) rows =
    armText unit level x ++ " else " ++ chainText unit level (y :: xs) rows := by
  simp only [chainText, List.map_cons, List.cons_append, String.intercalate_cons_cons]

end

/-- A chain is rendered if its arms are, and then as their texts at the level of the first. -/
theorem prints_chainPiece_iff {a : Arm Piece} {as : List (Arm Piece)} {es : List Piece}
    (has : ∀ b ∈ a :: as, b.All (·.isAbsent = false)) (hes : ∀ e ∈ es, e.isAbsent = false)
    {s : String} :
    Prints unit level (chainPiece (finalPiece es) (a :: as)) s ↔
      ∃ xs rows, List.Forall₂ (ArmPrints unit level) (a :: as) xs ∧
        List.Forall₂ (Prints unit (level + 2)) es rows ∧ s = chainText unit level xs rows := by
  induction as generalizing a s with
  | nil =>
    rw [chainPiece, prints_ifThen_iff (has a (by simp))]
    cases es with
    | nil =>
      have hnone : (chainPiece (finalPiece []) []).isAbsent = true := rfl
      simp only [hnone, if_true]
      constructor
      · rintro ⟨x, hx, rfl⟩
        exact ⟨[x], [], .cons hx .nil, .nil, (chainText_end ..).symm⟩
      · rintro ⟨_, _, hxs, _ | _, rfl⟩
        obtain ⟨x, _, hx, ⟨⟩, rfl⟩ := List.forall₂_cons_left_iff.1 hxs
        exact ⟨x, hx, chainText_end ..⟩
    | cons e es =>
      have hsome : (chainPiece (finalPiece (e :: es)) []).isAbsent = false := rfl
      have hblock : chainPiece (finalPiece (e :: es)) [] = Walk.block (e :: es) := rfl
      simp only [hsome, Bool.false_eq_true, if_false]
      simp only [hblock, prints_block_iff hes]
      constructor
      · rintro ⟨x, hx, _, ⟨_, _ | ⟨hrow, hrows⟩, rfl⟩, rfl⟩
        exact ⟨[x], _, .cons hx .nil, .cons hrow hrows, (chainText_else ..).symm⟩
      · rintro ⟨_, _, hxs, _ | ⟨hrow, hrows⟩, rfl⟩
        obtain ⟨x, _, hx, ⟨⟩, rfl⟩ := List.forall₂_cons_left_iff.1 hxs
        exact ⟨x, hx, _, ⟨_, .cons hrow hrows, rfl⟩, chainText_else ..⟩
  | cons b as ih =>
    have hmore : (chainPiece (finalPiece es) (b :: as)).isAbsent = false := rfl
    rw [chainPiece, prints_ifThen_iff (has a (by simp))]
    simp only [hmore, Bool.false_eq_true, if_false, ih fun c hc => has c (.tail _ hc)]
    constructor
    · rintro ⟨x, hx, _, ⟨_, rows, _ | ⟨hy, hxs⟩, hrows, rfl⟩, rfl⟩
      exact ⟨_, rows, .cons hx (.cons hy hxs), hrows, (chainText_more ..).symm⟩
    · rintro ⟨_, rows, _ | ⟨hx, _ | ⟨hy, hxs⟩⟩, hrows, rfl⟩
      exact ⟨_, hx, _, ⟨_, rows, .cons hy hxs, hrows, rfl⟩, chainText_more ..⟩

theorem returns_text_ifThen (t y n : Piece) :
    Returns unit 0 0 (Form.ifThen t y n).piece.render fun r => ∃ s, r = .text s :=
  (steady_level unit t).textOrEmpty tracks_nothing fun _ _ => (steady_level unit y).text fun _ _ =>
    (steady_level unit n).markedOrEmpty tracks_nothing (fun _ => trivial) fun _ _ =>
      returns_pure ⟨_, rfl⟩

theorem renderAt_chainPiece_iff {a : Arm Piece} {as : List (Arm Piece)} {es : List Piece}
    (has : ∀ b ∈ a :: as, b.All (·.isAbsent = false)) (hes : ∀ e ∈ es, e.isAbsent = false)
    {width : Int} {level level' : Nat} {q : Piece} :
    (chainPiece (finalPiece es) (a :: as)).renderAt width level = (.ok q, level') ↔
      level' = level ∧ ∃ xs rows, List.Forall₂ (ArmPrints (unitOf width) level) (a :: as) xs ∧
        List.Forall₂ (Prints (unitOf width) (level + 2)) es rows ∧
        q = .text (chainText (unitOf width) level xs rows) := by
  constructor
  · intro h
    obtain ⟨rfl, s, rfl⟩ := returns_text_ifThen _ _ _ level q level' h
    obtain ⟨xs, rows, hxs, hrows, rfl⟩ := (prints_chainPiece_iff has hes).1 h
    exact ⟨rfl, xs, rows, hxs, hrows, rfl⟩
  · rintro ⟨rfl, xs, rows, hxs, hrows, rfl⟩
    exact (prints_chainPiece_iff has hes).2 ⟨xs, rows, hxs, hrows, rfl⟩

end

end Transpile.Script

namespace Transpile.Walk

open Script Source

/-- The fields of a conditional whose other arm has the further arms, or the last statements. -/
def chainFields (a : Arm Tree) : List (Arm Tree) → List Tree → List Tree
  | [], last => [a.test, .list a.body, .list last]
  | b :: as, last => [a.test, .list a.body, .list [.node .ifStmt (chainFields b as last)]]

/-- The record of a chain has those of its tests and statements, arm by arm, and of the last. -/
inductive Chained : List (Arm Record) → List Record → Record → Prop where
  | last (t : Tree) (p : Piece) (a : Arm Record) (es : List Record) :
      Chained [a] es (.mk t p [[a.test], a.body, es])
  | more (t : Tree) (p : Piece) (a : Arm Record) {as : List (Arm Record)} {es : List Record}
      {r : Record} (h : Chained as es r) : Chained (a :: as) es (.mk t p [[a.test], a.body, [r]])

/-- The node added one piece to the results. -/
def YieldsOne (r : Record) : Prop := (spliced r.result).length = 1

instance (r : Record) : Decidable (YieldsOne r) := inferInstanceAs (Decidable (_ = _))

/-- The piece that the node added. -/
def nodeOf (r : Record) : Piece := (spliced r.result).headD .absent

section

variable {o : Options}

theorem YieldsOne.spliced_eq {r : Record} (h : YieldsOne r) : spliced r.result = [nodeOf r] := by
  obtain ⟨q, hq⟩ := List.length_eq_one_iff.1 h
  rw [nodeOf, hq]
  rfl

theorem nodesOf_of_yieldsOne {rs : List Record} (h : ∀ r ∈ rs, YieldsOne r) :
    nodesOf rs = rs.map nodeOf := by
  induction rs with
  | nil => rfl
  | cons r rs ih =>
    rw [nodesOf_cons, (h r (by simp)).spliced_eq, ih fun q hq => h q (by simp [hq])]
    rfl

theorem isAbsent_of_mem_spliced {p q : Piece} (hq : q ∈ spliced p) : q.isAbsent = false := by
  have h := hq
  unfold spliced at h
  split at h
  · simpa using (List.mem_filter.1 h).2
  · cases h
  · obtain rfl := List.mem_singleton.1 h
    refine Bool.eq_false_iff.2 fun habsent => ?_
    rw [spliced_of_isAbsent habsent] at hq
    cases hq

theorem YieldsOne.isAbsent_nodeOf {r : Record} (h : YieldsOne r) : (nodeOf r).isAbsent = false := by
  have hmem : nodeOf r ∈ spliced r.result := by simp [h.spliced_eq]
  exact isAbsent_of_mem_spliced hmem

/-- The other arm of `n` statements that gave `es`: one conditional stands there by itself. -/
def otherArm (n : Nat) (es : List Piece) : Piece :=
  if n = 0 then .absent
  else if n = 1 ∧ isIf (es.headD .absent) = true then es.headD .absent
  else block es

/-- A body that gave a piece for each statement is told apart from the other arm. -/
theorem results_ifRule {body orelse : List Tree} (test : Piece) {bs : List Piece}
    (hbs : bs.length = body.length) (es : List Piece) :
    Results o (· = (Form.ifThen test (block bs) (otherArm orelse.length es)).piece)
      (ifRule (.list body) (.list orelse) (test :: (bs ++ es))) := by
  have htake : (bs ++ es).take body.length = bs := by rw [← hbs, List.take_left]
  have hdrop : (bs ++ es).drop body.length = es := by rw [← hbs, List.drop_left]
  have hrule : ifRule (.list body) (.list orelse) (test :: (bs ++ es)) = (do
      let no ← if orelse.length = 0 then pure .absent
        else if orelse.length = 1 then do
          let first ← child ((bs ++ es).drop body.length) 0
          pure (if isIf first then first else block ((bs ++ es).drop body.length))
        else pure (block ((bs ++ es).drop body.length))
      return (Form.ifThen test (block ((bs ++ es).take body.length)) no).piece) := rfl
  rw [hrule, htake, hdrop]
  by_cases h0 : orelse.length = 0
  · simp only [h0, if_true]
    exact results_pure rfl
  by_cases h1 : orelse.length = 1
  · simp only [h1, if_true, Nat.one_ne_zero, if_false]
    refine results_bind_of (results_child_zero es) fun first ⟨more, hes⟩ => results_pure ?_
    simp [otherArm, hes]
  · simp only [h0, h1, if_false]
    exact results_pure (by simp [otherArm, h0, h1])

theorem isIf_of_statement {w : Walker Piece} (h : Results o (isStatement · = true) w) :
    Results o (isIf · = false) w :=
  h.imp fun _ => isIf_of_isStatement

theorem Statements.isIf {p : Piece} (h : Statements p) : isIf p = false := by
  cases h with
  | one h => exact isIf_of_isStatement h
  | several h => rfl

theorem Looped.isIf {p : Piece} (h : Looped p) : isIf p = false := by
  cases h <;> rfl

/-- Of the statements only a conditional gives one. -/
theorem isIf_rule {k : Kind} (hk : isStatementKind k = true) (hif : k ≠ .ifStmt) (ws : List Branch)
    (cs : List Piece) : Results o (isIf · = false) (rule k ws cs) := by
  cases k with
  | exprStmt | raiseStmt | importStmt | deleteStmt => exact results_bind fun _ => results_pure rfl
  | assign => exact (statements_assignRule cs).imp fun _ => Statements.isIf
  | forStmt => exact (made_forRule cs).imp fun _ ⟨_, _, _, _, hp⟩ => hp ▸ rfl
  | ifStmt => exact absurd rfl hif
  | augAssign =>
    match ws with
    | [_, op, _] => exact isIf_of_statement (statement_augmentRule op.tree cs)
    | [] | [_] | [_, _] | _ :: _ :: _ :: _ :: _ => exact results_pure rfl
  | whileStmt =>
    match ws with
    | [_, body, orelse] => exact (looped_whileRule body.tree orelse.tree cs).imp fun _ => Looped.isIf
    | [] | [_] | [_, _] | _ :: _ :: _ :: _ :: _ => exact results_pure rfl
  | tryStmt =>
    match ws with
    | [_, _, _, final] => exact results_bind fun _ => results_pure rfl
    | [] | [_] | [_, _] | [_, _, _] | _ :: _ :: _ :: _ :: _ :: _ => exact results_pure rfl
  | functionDef =>
    match ws with
    | [name, _, _, decorators, _] =>
      exact (statements_functionRule name.tree decorators.tree cs).imp fun _ => Statements.isIf
    | [] | [_] | [_, _] | [_, _, _] | [_, _, _, _] | _ :: _ :: _ :: _ :: _ :: _ :: _ =>
      exact results_throw _
  | classDef =>
    match ws with
    | name :: _ => exact isIf_of_statement (statement_classRule name.tree cs)
    | [] => exact results_pure rfl
  | returnStmt | breakStmt | continueStmt | passStmt | globalStmt | nonlocalStmt | assertStmt
  | importFrom | withStmt | matchStmt | annAssign | asyncFunctionDef | asyncFor | asyncWith
  | tryStar => exact results_pure rfl
  | _ => cases hk

/-- A statement that is no conditional and gives one piece gives none. -/
theorem isIf_of_recorded {k : Kind} (hk : isStatementKind k = true) (hif : k ≠ .ifStmt)
    {fs : List Tree} {r : Record} (h : Recorded o (.node k fs) [r]) (hr : YieldsOne r) :
    isIf (nodeOf r) = false := by
  obtain ⟨p, rss, hrec, -, s, s', hrule⟩ := recorded_node h
  obtain rfl := List.singleton_inj.1 hrec
  have hlined : Lined p :=
    lined_rule (by rintro rfl; cases hk) (by rintro rfl; cases hk) _ _ s p s' hrule
  have hnode : spliced p = [nodeOf (.mk (.node k fs) p rss)] := hr.spliced_eq
  cases hlined with
  | one h =>
    rcases spliced_of_isPlain h with h0 | h1
    · rw [h0] at hnode
      cases hnode
    · rw [← List.singleton_inj.1 (h1.symm.trans hnode)]
      exact isIf_rule hk hif _ _ s p s' hrule
  | none => cases hnode
  | several hq _ =>
    rw [spliced_splice, List.filter_cons_of_pos (by simp [isAbsent_of_isStatement hq])] at hnode
    rw [← (List.cons.inj hnode).1]
    exact isIf_of_isStatement hq

theorem recorded_isNode {t : Tree} (ht : t.isNode = true) {rs : List Record} (h : Recorded o t rs) :
    ∃ r, rs = [r] ∧ r.tree = t := by
  cases t with
  | node k fs =>
    obtain ⟨p, rss, rfl, -⟩ := recorded_node h
    exact ⟨_, rfl, rfl⟩
  | _ => cases ht

/-- The records of a list of nodes, one for each. -/
theorem trees_of_recorded {ts : List Tree} (hts : ∀ t ∈ ts, t.isNode = true) {rs : List Record}
    (h : Recorded o (.list ts) rs) : rs.map Record.tree = ts := by
  have hall := recorded_list h
  rw [List.filter_eq_self.2 hts] at hall
  clear h
  induction hall with
  | nil => rfl
  | cons h _ ih =>
    obtain ⟨r, hr, htree⟩ := recorded_isNode (hts _ (by simp)) h
    rw [List.map_cons, List.singleton_inj.1 hr, htree, ih fun t ht => hts t (by simp [ht])]

theorem recorded_single {k : Kind} {fs : List Tree} {rs : List Record}
    (h : Recorded o (.list [.node k fs]) rs) : ∃ r, rs = [r] ∧ Recorded o (.node k fs) [r] := by
  have hall : List.Forall₂ (fun t r => Recorded o t [r]) [.node k fs] rs := recorded_list h
  obtain ⟨r, _, hr, ⟨⟩, rfl⟩ := List.forall₂_cons_left_iff.1 hall
  exact ⟨r, rfl, hr⟩

/-- One conditional: its test and its body are recorded, and if each node of them gave one piece, the
rule has put those in place. -/
theorem recorded_arm {a : Arm Tree} (ha : a.All (·.isNode = true)) {orelse : List Tree}
    {rs : List Record}
    (h : Recorded o (.node .ifStmt [a.test, .list a.body, .list orelse]) rs) :
    ∃ t p, ∃ b : Arm Record, ∃ es, rs = [.mk t p [[b.test], b.body, es]] ∧ b.map Record.tree = a ∧
      Recorded o (.list orelse) es ∧
      (b.All YieldsOne → p = (Form.ifThen (nodeOf b.test) (block (b.body.map nodeOf))
        (otherArm orelse.length (nodesOf es))).piece) := by
  obtain ⟨p, rss, rfl, hfields, s, s', hrule⟩ := recorded_node h
  simp only [List.forall₂_cons_left_iff, List.forall₂_nil_left_iff] at hfields
  obtain ⟨ts, _, ht, ⟨bs, _, hb, ⟨es, _, he, rfl, rfl⟩, rfl⟩, rfl⟩ := hfields
  obtain ⟨r, rfl, htest⟩ := recorded_isNode ha.1 ht
  have hbody := trees_of_recorded ha.2 hb
  refine ⟨_, p, ⟨r, bs⟩, es, rfl, by rw [Arm.map, htest, hbody], he, fun hone => ?_⟩
  have hlen : (bs.map nodeOf).length = a.body.length := by
    rw [← hbody, List.length_map, List.length_map]
  have hcs : nodesOf [[r], bs, es].flatten = nodeOf r :: (bs.map nodeOf ++ nodesOf es) := by
    simp [hone.1.spliced_eq, nodesOf_of_yieldsOne hone.2]
  rw [rule_walkAll rfl, hcs] at hrule
  exact results_ifRule (nodeOf r) hlen (nodesOf es) s p s' hrule

/-- What stands in the last arm is no chain that goes on. -/
theorem otherArm_last {last : List Tree}
    (hlast : ∀ t ∈ last, ∃ k fs, t = .node k fs ∧ isStatementKind k = true)
    (hend : ∀ fs, last ≠ [.node .ifStmt fs]) {es : List Record} (h : Recorded o (.list last) es)
    (hone : ∀ e ∈ es, YieldsOne e) :
    otherArm last.length (nodesOf es) = finalPiece (es.map nodeOf) := by
  rw [nodesOf_of_yieldsOne hone]
  match last with
  | [] =>
    rw [recorded_no_list h]
    rfl
  | [t] =>
    obtain ⟨k, fs, rfl, hk⟩ := hlast t (by simp)
    obtain ⟨e, rfl, he⟩ := recorded_single h
    have hif : k ≠ .ifStmt := by
      rintro rfl
      exact hend fs rfl
    have hnode := isIf_of_recorded hk hif he (hone e (by simp))
    simp [otherArm, finalPiece, hnode]
  | t :: u :: last =>
    obtain ⟨k, fs, rfl, -⟩ := hlast t (by simp)
    obtain ⟨e, es, -, -, rfl⟩ := List.forall₂_cons_left_iff.1 (recorded_list h)
    simp [otherArm, finalPiece]

/-- The record of a chain has the arms in order. If every node gave one piece, the result is a chain
of the same arms. -/
theorem recorded_chain {a : Arm Tree} {as : List (Arm Tree)} {last : List Tree}
    (has : ∀ b ∈ a :: as, b.All (·.isNode = true))
    (hlast : ∀ t ∈ last, ∃ k fs, t = .node k fs ∧ isStatementKind k = true)
    (hend : ∀ fs, last ≠ [.node .ifStmt fs]) {rs : List Record}
    (h : Recorded o (.node .ifStmt (chainFields a as last)) rs) :
    ∃ r b bs es, rs = [r] ∧ Chained (b :: bs) es r ∧ (b :: bs).map (Arm.map Record.tree) = a :: as ∧
      es.map Record.tree = last ∧
      ((∀ c ∈ b :: bs, c.All YieldsOne) → (∀ e ∈ es, YieldsOne e) →
        r.result = chainPiece (finalPiece (es.map nodeOf)) ((b :: bs).map (Arm.map nodeOf))) := by
  induction as generalizing a rs with
  | nil =>
    obtain ⟨t, p, b, es, rfl, hb, hes, hp⟩ := recorded_arm (has a (by simp)) h
    have hnodes : ∀ u ∈ last, u.isNode = true := by
      intro u hu
      obtain ⟨k, fs, rfl, -⟩ := hlast u hu
      rfl
    refine ⟨_, b, [], es, rfl, .last t p b es, by simp [hb], trees_of_recorded hnodes hes, ?_⟩
    · intro hbs hone
      rw [Record.result_mk, hp (hbs b (by simp)), otherArm_last hlast hend hes hone]
      rfl
  | cons a' as ih =>
    obtain ⟨t, p, b, es, rfl, hb, hes, hp⟩ := recorded_arm (has a (by simp)) h
    obtain ⟨e, rfl, he⟩ := recorded_single hes
    obtain ⟨r, b', bs, es, hr, hchain, hbs, hes, hresult⟩ := ih (fun c hc => has c (.tail _ hc)) he
    obtain rfl := List.singleton_inj.1 hr
    refine ⟨_, b, b' :: bs, es, rfl, .more t p b hchain, ?_, hes, fun hall hone => ?_⟩
    · rw [List.map_cons, hb, hbs]
    · have hrest := hresult (fun c hc => hall c (.tail _ hc)) hone
      have hnodes : nodesOf [e] = [e.result] := by
        rw [nodesOf_cons, hrest]
        rfl
      rw [Record.result_mk, hp (hall b (by simp)), hnodes, hrest]
      rfl

/-- A chain of conditionals is flat. The record of its translation has the tests and the statements
arm by arm. If every one of them gave one piece, the result is rendered just if these are, and the
text has the arms in order at one level, each with a block of the statements of its own. -/
theorem chain_rendered_flat {s s' : State} (hs : Ready s) {a : Arm Tree} {as : List (Arm Tree)}
    {last : List Tree} (has : ∀ b ∈ a :: as, b.All (·.isNode = true))
    (hlast : ∀ t ∈ last, ∃ k fs, t = .node k fs ∧ isStatementKind k = true)
    (hend : ∀ fs, last ≠ [.node .ifStmt fs]) {p : Piece}
    (h : run (visit (.node .ifStmt (chainFields a as last))) o s = (.ok p, s')) :
    ∃ r arms es, run (record .ifStmt (chainFields a as last)) o s = (.ok r, s') ∧ r.result = p ∧
      Chained arms es r ∧ arms.map (Arm.map Record.tree) = a :: as ∧ es.map Record.tree = last ∧
      ((∀ b ∈ arms, b.All YieldsOne) → (∀ e ∈ es, YieldsOne e) →
        ∀ (width : Int) (level level' : Nat) (q : Piece),
          p.renderAt width level = (.ok q, level') ↔ level' = level ∧ ∃ texts rows,
            List.Forall₂ (ArmPrints (unitOf width) level) (arms.map (Arm.map nodeOf)) texts ∧
            List.Forall₂ (Prints (unitOf width) (level + 2)) (es.map nodeOf) rows ∧
            q = .text (chainText (unitOf width) level texts rows)) := by
  obtain ⟨r, hr, rfl⟩ := exists_record h
  obtain ⟨r', b, bs, es, hr', hchain, harms, hes, hresult⟩ :=
    recorded_chain has hlast hend (recorded_of_run hs hr)
  obtain rfl := List.singleton_inj.1 hr'
  refine ⟨r, b :: bs, es, hr, rfl, hchain, harms, hes, fun hall hone width level level' q => ?_⟩
  rw [hresult hall hone]
  refine renderAt_chainPiece_iff ?_ ?_
  · rw [← List.map_cons]
    intro c hc
    obtain ⟨c, hmem, rfl⟩ := List.mem_map.1 hc
    refine ⟨(hall c hmem).1.isAbsent_nodeOf, fun q hq => ?_⟩
    obtain ⟨u, hu, rfl⟩ := List.mem_map.1 hq
    exact ((hall c hmem).2 u hu).isAbsent_nodeOf
  · intro e he
    obtain ⟨u, hu, rfl⟩ := List.mem_map.1 he
    exact (hone u hu).isAbsent_nodeOf

/-- Two arms, the second of two statements, and one statement more. -/
def threeWays : List Tree :=
  chainFields ⟨nameNode "a", [nameStatement "x"]⟩
    [⟨nameNode "b", [nameStatement "y", nameStatement "z"]⟩] [nameStatement "w"]

/-- Every node in the fields added one piece. -/
def singleFields (r : Record) : Bool := r.fields.all (·.all fun r => decide (YieldsOne r))

theorem threeWays_rendered_flat : ∃ p s' texts rows,
    run (visit (.node .ifStmt threeWays)) {} {} = (.ok p, s') ∧
      p.renderAt 1 1 = (.ok (.text (chainText (unitOf 1) 1 texts rows)), 1) ∧
      chainText (unitOf 1) 1 texts rows =
        "if (a) \x7b\n   x;\n \x7d else if (b) \x7b\n   y;\n   z;\n \x7d else \x7b\n   w;\n \x7d" := by
  obtain ⟨p, s', hrun, hseen⟩ := exists_observed .ifStmt threeWays
    (fun r => (singleFields r, (r.fields.getD 2 []).all singleFields,
      (r.result.renderAt 1 1).1.toOption.map Piece.shown))
    (b := (true, true, some
      "if (a) \x7b\n   x;\n \x7d else if (b) \x7b\n   y;\n   z;\n \x7d else \x7b\n   w;\n \x7d"))
    (by decide +kernel)
  obtain ⟨r, arms, es, hrec, rfl, hchain, harms, hes, hiff⟩ :=
    chain_rendered_flat ready_start (by simp [Arm.All, nameNode, nameStatement, Tree.isNode])
      (by simp [nameStatement, isStatementKind]) (by simp [nameStatement]) hrun
  have hall := hseen r hrec
  cases hchain with
  | last => simp at harms
  | more t p a hrest =>
    cases hrest with
    | more t q b hrest => cases hrest <;> simp at harms
    | last t q b es =>
      simp only [singleFields, Record.fields_mk, Record.result_mk, List.all_cons, List.all_nil,
        Bool.and_true, List.getD_cons_succ, List.getD_cons_zero, Prod.mk.injEq, Bool.and_eq_true,
        List.all_eq_true, decide_eq_true_eq, Option.map_eq_some_iff] at hall
      obtain ⟨⟨hatest, habody, -⟩, ⟨hbtest, hbbody, hes⟩, c, hc, htext⟩ := hall
      have hones : ∀ x ∈ [a, b], x.All YieldsOne := by
        simpa [Arm.All] using ⟨⟨hatest, habody⟩, hbtest, hbbody⟩
      rcases hp : p.renderAt 1 1 with ⟨_ | r, level⟩
      · rw [hp] at hc
        cases hc
      · obtain ⟨rfl, texts, rows, -, -, rfl⟩ := (hiff hones hes 1 1 level r).1 hp
        rw [hp] at hc
        cases hc
        exact ⟨p, s', texts, rows, hrun, hp, htext⟩

end

end Transpile.Walk
