import Transpile.Proofs.Discipline
import Mathlib.Control.Monad.Writer

/-! A walk that notes the names it binds and the temporaries it draws, each with the scope before it.
What is noted inside a function, a program or the closure of a class is kept apart from what is noted
around it. The rules that bind or draw are written down once more with their notes; the others are
taken as they are. Forgetting the notes gives the walk back. -/

namespace Transpile.Walk

open Script Source

/-- What temporaries are for: loops, the parts of an array, the function of a class, and the index,
length, values and results of a comprehension. -/
inductive Stem where
  | loop
  | parts
  | maker
  | index
  | length
  | values
  | results

def Stem.text : Stem → String
  | .loop => "ref"
  | .parts => "_ref"
  | .maker => "classref"
  | .index => "_i"
  | .length => "_len"
  | .values => "_values"
  | .results => "_results"

/-- A temporary: its stem, the scope before it, and the identifier that was made for it. -/
structure Draw where
  stem : Stem
  scope : Scope
  piece : Piece

/-- The key under which the temporary is bound. -/
def Draw.key (d : Draw) : String := d.scope.fresh d.stem.text

/-- A temporary, a name that is visible from then on, or a node with what is noted in a scope of its
own. -/
inductive Entry where
  | drawn (d : Draw)
  | bound (n : String)
  | inside (t : Tree) (es : List Entry)

/-- A walk with its notes, in order. -/
abbrev Tracked := WriterT (List Entry) Walker

namespace Tracked

def draw (st : Stem) : Tracked Piece := do
  let s ← (get : Walker State)
  let p ← fresh st.text
  tell [.drawn ⟨st, s.scope, p⟩]
  return p

def bindAs (key p : Piece) : Tracked Piece := do
  let q ← Walk.bindAs key p
  tell ((keyOf key).toList.map .bound)
  return q

def bind (p : Piece) : Tracked Piece := do
  let v ← (need p.value : Walker Piece)
  bindAs v p

def enclosed {α : Type} (t : Tree) (w : Tracked α) : Tracked α :=
  WriterT.mk do
    let e ← w.run
    return (e.1, [.inside t e.2])

/-! Rules that bind or draw -/

def deletions : List Piece → Tracked (List Piece)
  | [] => pure []
  | c :: cs => do
    let c ← bind c
    let ds ← deletions cs
    return statement (Form.unary (text "delete") c (.atom (.flag false))).piece :: ds

def deleteRule (cs : List Piece) : Tracked Piece := do
  let ds ← deletions cs
  return splice ds

def bindTarget (t : Piece) : Tracked Piece := if isIdentifier t then bind t else pure t

def placeTarget (value : Piece) (extras : List Piece) (t : Piece) : Tracked (Piece × List Piece) :=
  match arrayParts? t, arrayParts? value with
  | some items, some _ => do
    let r ← draw .parts
    pure (r, extras ++ unpack r items)
  | _, _ => pure (t, extras)

def assignTargets (value : Piece) : List Piece → Piece → List Piece → Tracked (Piece × List Piece)
  | [], chain, extras => pure (chain, extras)
  | t :: ts, chain, extras => do
    let t ← bindTarget t
    let e ← placeTarget value extras t
    assignTargets value ts (assignTo "=" e.1 (if chain.isAbsent then value else chain)) e.2

def assignRule (cs : List Piece) : Tracked Piece :=
  match cs.getLast? with
  | none => throw .missingChild
  | some value => do
    let (chain, extras) ← assignTargets value cs.dropLast.reverse .absent []
    if extras.isEmpty then return statement chain
    else return splice (statement chain :: extras)

/-- An augmented assignment by an operator that the script has. -/
def augmentBy (op value target : Piece) : Walker Piece :=
  match op with
  | .text s => return statement (assignTo (s ++ "=") target value)
  | _ => throw .wrongType

def augmentTarget (target : Piece) (cs : List Piece) : Tracked Piece := do
  let op ← child cs 1
  let value ← child cs 2
  let target ← bindTarget target
  augmentBy op value target

def augmentRule (op : Tree) (cs : List Piece) : Tracked Piece := do
  let target ← child cs 0
  match ← operatorOf op with
  | some .pow => return statement (assignTo "=" target (← augmented powerOf target cs))
  | some .floorDiv => return statement (assignTo "=" target (← augmented floorOf target cs))
  | _ => augmentTarget target cs

def whileRule (body orelse : Tree) (cs : List Piece) : Tracked Piece := do
  let test ← child cs 0
  let n ← sizeOfField body
  let inner := (cs.drop 1).take n
  if (← given orelse).isTruthy then
    let flag ← draw .loop
    let start := statement (assignTo "=" flag (leaf .boolean "true"))
    let enter := statement (assignTo "=" flag (leaf .boolean "false"))
    return splice [start, (Form.whileDo test (block (enter :: inner))).piece,
      (Form.ifThen flag (block (cs.drop (n + 1))) .absent).piece]
  else return (Form.whileDo test (block inner)).piece

def forRule (cs : List Piece) : Tracked Piece := do
  let i ← draw .loop
  let values ← draw .loop
  let item ← child cs 0
  let source ← child cs 1
  let body ← child cs 2
  let _ ← declaration values source
  let test := binary "<" i (dot values "length")
  let step := (Form.unary (text "++") i (.atom (.flag true))).piece
  let start := (Form.comma (assignTo "=" i (leaf .number "0")) (assignTo "=" values source)).piece
  let item ← bind item
  let take := statement (assignTo "=" item (Form.bracket values i).piece)
  return (Form.forLoop start test step (block [take, body])).piece

def defineFunction (name : Tree) (cs vars : List Piece) (n : Nat) : Tracked Piece := do
  let (body, applied) := if n = 0 then (cs.drop 1, []) else ((butLast n cs).drop 1, lastOf n cs)
  let key ← atomField name
  let id ← sourceName key
  let id ← declare id
  let params ← child cs 0
  let f ← functionOf (Seq.ofPiece params) (.items (vars ++ body))
  let definition := statement (Form.varDecl id f).piece
  leaveScope
  let _ ← bindAs key id
  match applied with
  | [] => return definition
  | ds => return splice (definition :: (ds.map fun d =>
      statement (assignTo "=" id (callOf d [id]))).reverse)

def functionRule (name decorators : Tree) (cs : List Piece) : Tracked Piece := do
  let vars ← scopeVars false
  let n ← decoratorCount decorators
  defineFunction name cs vars n

def defineClass (name : Tree) (e : Piece × List (Piece × Piece)) (c : Piece) : Tracked Piece := do
  let body := statement (assignTo "=" c e.1) ::
    (e.2.map fun m =>
      statement (assignTo "=" (Form.dot (dot c "prototype") m.1).piece m.2)) ++
    [(Form.returns c).piece]
  let vars ← scopeVars false
  let closure ← functionOf (.items []) (.items (vars ++ body))
  let key ← atomField name
  let id ← sourceName key
  leaveScope
  let id ← bindAs key id
  return statement (assignTo "=" id (callOf closure.inParens []))

def classRule (t name : Tree) (cs : List Piece) : Tracked Piece := do
  let e ← classParts cs
  let c ← enclosed t do
    enterScope
    draw .maker
  defineClass name e c

/-! Branches, and the rules that walk them again -/

inductive Branch where
  | mk (tree : Tree) (again : Tracked Piece) (parts : List Branch)

namespace Branch

def tree : Branch → Tree
  | mk t _ _ => t

def again : Branch → Tracked Piece
  | mk _ r _ => r

def parts : Branch → List Branch
  | mk _ _ ps => ps

end Branch

def subscriptRule (slice : Branch) (cs : List Piece) : Tracked Piece := do
  let target ← child cs 0
  match ← given slice.tree, slice.parts with
  | .node .slice _, [lower, upper, step] =>
    if step.tree.isTruthy then throw .steppedSlice
    let low ← if lower.tree.isTruthy then lower.again else pure (leaf .number "0")
    let high ← if upper.tree.isTruthy then do pure [← upper.again] else pure []
    return callOf (dot target "slice") (low :: high)
  | _, _ => return (Form.bracket target (← child cs 1)).piece

def conditions : List Branch → Piece → Tracked Piece
  | [], acc => pure acc
  | w :: ws, acc => do
    let c ← w.again
    conditions ws (if acc.isAbsent then c else binary "&&" acc c)

/-- The call that collects the results, from the values and the body of its loop. -/
def collecting (i n values results : Piece) (vars : List Piece) (source body : Piece) :
    Walker Piece := do
  let fill := statement (assignTo "=" values source)
  let clear := statement (assignTo "=" results (Form.array (.items [])).piece)
  let all := block [(Form.group .vars (.items vars)).piece, fill, clear,
    indexLoop i n values body, (Form.returns results).piece]
  let f ← functionOf (.items []) (Seq.ofPiece all)
  return callOf f.inParens []

def comprehensionRule (generators : Branch) : Tracked Piece := do
  if (← sizeOfField generators.tree) ≠ 1 then throw .severalGenerators
  match generators.parts with
  | [.mk (.node .comprehension _) _ [target, source, ifs, _]] =>
    let _ ← given source.tree
    let _ ← given target.tree
    let _ ← given ifs.tree
    let i ← draw .index
    let n ← draw .length
    let values ← draw .values
    let results ← draw .results
    let vars ← ([i, n, values, results].mapM fun p => declaration p .absent : Walker _)
    let filled ← source.again
    let element := statement (Form.bracket values i).piece
    let push := (Form.call (dot results "push") (Seq.ofPiece element)).piece
    if ifs.tree.isTruthy then
      let test ← conditions ifs.parts .absent
      collecting i n values results vars filled
        (block [(Form.ifThen test (block [push]) .absent).piece])
    else collecting i n values results vars filled (block [push])
  | _ => throw .missingAttribute

/-! The walk -/

def rule : Kind → List Branch → List Piece → Tracked Piece
  | .subscript, [_, slice, _], cs => subscriptRule slice cs
  | .listComp, [_, generators], _ => comprehensionRule generators
  | .deleteStmt, _, cs => deleteRule cs
  | .assign, _, cs => assignRule cs
  | .augAssign, [_, op, _], cs => augmentRule op.tree cs
  | .whileStmt, [_, body, orelse], cs => whileRule body.tree orelse.tree cs
  | .forStmt, _, cs => forRule cs
  | .functionDef, [name, _, _, decorators, _], cs => functionRule name.tree decorators.tree cs
  | .classDef, name :: ws, cs =>
    classRule (.node .classDef (name.tree :: ws.map Branch.tree)) name.tree cs
  | k, ws, cs => fieldRule k (ws.map Branch.tree) cs

def visitField (w : Branch) : Tracked Unit :=
  match w.tree with
  | .node _ _ => do let _ ← w.again
  | .list _ => w.parts.forM fun p => do if p.tree.isNode then let _ ← p.again
  | _ => pure ()

def visitFields (k : Kind) (fs : List Tree) (ws : List Branch) : Tracked Unit :=
  if opensScope k then enclosed (.node k fs) (ws.forM visitField) else ws.forM visitField

def visitNode (k : Kind) (fs : List Tree) (ws : List Branch) : Tracked Piece := do
  enterNode k (walkAll fs)
  visitFields k fs ws
  leaveFields popOperator k
  let cs ← children
  let p ← rule k ws cs
  closeNode closeLevel k p

mutual

def walk : Tree → Branch
  | .node k fs =>
    let ws := walkAll fs
    .mk (.node k fs) (visitNode k fs ws) ws
  | .list ts => .mk (.list ts) (visitOther (.list ts)) (walkAll ts)
  | .atom a => .mk (.atom a) (visitOther (.atom a)) []
  | .missing => .mk .missing (throw .missingAttribute) []

def walkAll : List Tree → List Branch
  | [] => []
  | t :: ts => walk t :: walkAll ts

end

def visit (t : Tree) : Tracked Piece := (walk t).again

/-! Forgetting the notes -/

section

variable {α β : Type}

/-- Without its notes the walk is `v`. -/
def Erases (w : Tracked α) (v : Walker α) : Prop := Prod.fst <$> w.run = v

theorem erases_pure (a : α) : Erases (pure a) (pure a) := rfl

theorem erases_throw (c : Cause) : Erases (throw c : Tracked α) (throw c) := rfl

theorem erases_lift (v : Walker α) : Erases (liftM v) v := by
  change Prod.fst <$> (fun a => (a, ([] : List Entry))) <$> v = v
  rw [Functor.map_map]
  exact id_map v

theorem Erases.bind {w : Tracked α} {v : Walker α} {f : α → Tracked β} {g : α → Walker β}
    (hw : Erases w v) (hf : ∀ a, Erases (f a) (g a)) : Erases (w >>= f) (v >>= g) := by
  have hg : (fun e : α × List Entry => Prod.fst <$> (f e.1).run) = fun e => g e.1 :=
    funext fun e => hf e.1
  change Prod.fst <$> (w.run >>= fun e => (fun e' => (e'.1, e.2 ++ e'.2)) <$> (f e.1).run) = _
  rw [map_bind, ← hw, bind_map_left, ← hg]
  simp only [Functor.map_map]

theorem erases_lift_bind (v : Walker α) {f : α → Tracked β} {g : α → Walker β}
    (hf : ∀ a, Erases (f a) (g a)) : Erases (liftM v >>= f) (v >>= g) :=
  (erases_lift v).bind hf

theorem erases_ite {c : Prop} [Decidable c] {w w' : Tracked α} {v v' : Walker α} (h : Erases w v)
    (h' : Erases w' v') : Erases (if c then w else w') (if c then v else v') := by
  split_ifs
  · exact h
  · exact h'

/-- A check that fails or does nothing, before what is done in any case. -/
theorem erases_guard {c : Prop} [Decidable c] {e : Cause} {f : Unit → Tracked β}
    {g : Unit → Walker β} (h : Erases (f ()) (g ())) :
    Erases (if c then throw e >>= f else f ()) (if c then throw e >>= g else g ()) :=
  erases_ite rfl h

theorem get_bind (v : Walker α) : (get >>= fun _ => v) = v := rfl

theorem erases_draw (st : Stem) : Erases (draw st) (fresh st.text) := by
  have h : Erases (draw st) (get >>= fun _ => fresh st.text >>= fun p => pure p) :=
    erases_lift_bind get fun s => erases_lift_bind (fresh st.text) fun p => rfl
  rwa [get_bind, bind_pure] at h

theorem Erases.enclosed {w : Tracked α} {v : Walker α} (h : Erases w v) (t : Tree) :
    Erases (enclosed t w) v := by
  rw [← h]
  change Prod.fst <$> (do let e ← w.run; return (e.1, [Entry.inside t e.2])) = _
  rw [map_bind, map_eq_pure_bind]
  rfl

end

/-! Rules -/

theorem erases_bindAs (key p : Piece) : Erases (bindAs key p) (Walk.bindAs key p) := by
  have h : Erases (bindAs key p) (Walk.bindAs key p >>= fun q => pure q) :=
    erases_lift_bind (Walk.bindAs key p) fun q => rfl
  rwa [bind_pure] at h

theorem erases_bind (p : Piece) : Erases (bind p) (Walk.bind p) :=
  erases_lift_bind _ fun v => erases_bindAs v p

theorem erases_bindTarget (t : Piece) :
    Erases (bindTarget t) (if isIdentifier t then Walk.bind t else pure t) :=
  erases_ite (erases_bind t) (erases_pure t)

theorem erases_deleteRule (cs : List Piece) : Erases (deleteRule cs) (Walk.deleteRule cs) := by
  refine Erases.bind ?_ fun ds => erases_pure _
  induction cs with
  | nil => rfl
  | cons c cs ih =>
    rw [List.mapM_cons, bind_assoc]
    exact (erases_bind c).bind fun c => ih.bind fun ds => erases_pure _

theorem erases_placeTarget (value : Piece) (extras : List Piece) (t : Piece) :
    Erases (placeTarget value extras t) (Walk.placeTarget value extras t) := by
  unfold placeTarget Walk.placeTarget
  cases arrayParts? t with
  | none => rfl
  | some items =>
    cases arrayParts? value with
    | none => rfl
    | some _ => exact (erases_draw .parts).bind fun r => erases_pure _

theorem erases_assignTargets (value : Piece) (ts : List Piece) (chain : Piece)
    (extras : List Piece) :
    Erases (assignTargets value ts chain extras) (Walk.assignTargets value ts chain extras) := by
  induction ts generalizing chain extras with
  | nil => rfl
  | cons t ts ih =>
    have hrest (t : Piece) := (erases_placeTarget value extras t).bind fun e =>
      ih (assignTo "=" e.1 (if chain.isAbsent then value else chain)) e.2
    rw [assignTargets_cons]
    refine ((erases_bindTarget t).bind hrest).trans ?_
    split_ifs <;> rfl

theorem erases_assignRule (cs : List Piece) : Erases (assignRule cs) (Walk.assignRule cs) := by
  unfold assignRule Walk.assignRule
  cases cs.getLast? with
  | none => rfl
  | some value =>
    refine (erases_assignTargets _ _ _ _).bind fun e => ?_
    exact erases_ite (erases_pure _) (erases_pure _)

theorem erases_augmentRule (op : Tree) (cs : List Piece) :
    Erases (augmentRule op cs) (Walk.augmentRule op cs) := by
  refine erases_lift_bind _ fun target => erases_lift_bind _ fun b => ?_
  have hplain : Erases (augmentTarget target cs) (do
      let op ← child cs 1
      let value ← child cs 2
      let target ← if isIdentifier target then Walk.bind target else pure target
      augmentBy op value target) := by
    refine erases_lift_bind _ fun op => erases_lift_bind _ fun value => ?_
    refine ((erases_bindTarget target).bind fun t => erases_lift (augmentBy op value t)).trans ?_
    split_ifs <;> rfl
  cases b with
  | none => exact hplain
  | some op =>
    cases op
    case pow => exact erases_lift_bind _ fun value => erases_pure _
    case floorDiv => exact erases_lift_bind _ fun value => erases_pure _
    all_goals exact hplain

theorem erases_whileRule (body orelse : Tree) (cs : List Piece) :
    Erases (whileRule body orelse cs) (Walk.whileRule body orelse cs) := by
  refine erases_lift_bind _ fun test => erases_lift_bind _ fun n => erases_lift_bind _ fun t => ?_
  exact erases_ite ((erases_draw .loop).bind fun flag => erases_pure _) (erases_pure _)

theorem erases_forRule (cs : List Piece) : Erases (forRule cs) (Walk.forRule cs) := by
  refine (erases_draw .loop).bind fun i => (erases_draw .loop).bind fun values => ?_
  refine erases_lift_bind _ fun item => erases_lift_bind _ fun source => ?_
  refine erases_lift_bind _ fun body => erases_lift_bind _ fun _ => ?_
  exact (erases_bind item).bind fun item => erases_pure _

theorem erases_defineFunction (name : Tree) (cs vars : List Piece) (n : Nat) :
    Erases (defineFunction name cs vars n) (Walk.defineFunction name cs vars n) := by
  unfold defineFunction Walk.defineFunction
  generalize (if n = 0 then (cs.drop 1, []) else ((butLast n cs).drop 1, lastOf n cs)) = e
  refine erases_lift_bind _ fun key => erases_lift_bind _ fun id => erases_lift_bind _ fun id => ?_
  refine erases_lift_bind _ fun params => erases_lift_bind _ fun f => erases_lift_bind _ fun _ => ?_
  refine (erases_bindAs key id).bind fun _ => ?_
  cases e.2 <;> rfl

theorem erases_functionRule (name decorators : Tree) (cs : List Piece) :
    Erases (functionRule name decorators cs) (Walk.functionRule name decorators cs) := by
  rw [functionRule_eq]
  exact erases_lift_bind _ fun vars => erases_lift_bind _ fun n => erases_defineFunction name cs vars n

theorem erases_defineClass (name : Tree) (e : Piece × List (Piece × Piece)) (c : Piece) :
    Erases (defineClass name e c) (Walk.defineClass name e c) := by
  refine erases_lift_bind _ fun vars => erases_lift_bind _ fun closure => ?_
  refine erases_lift_bind _ fun key => erases_lift_bind _ fun id => erases_lift_bind _ fun _ => ?_
  exact (erases_bindAs key id).bind fun id => erases_pure _

theorem erases_classRule (t name : Tree) (cs : List Piece) :
    Erases (classRule t name cs) (Walk.classRule name cs) := by
  have hmaker : Erases (enclosed t (do enterScope; draw .maker)) (do enterScope; fresh "classref") :=
    (erases_lift_bind _ fun _ => erases_draw .maker).enclosed t
  have h : Erases (classRule t name cs)
      (classParts cs >>= fun e => (enterScope >>= fun _ => fresh "classref") >>= fun c =>
        Walk.defineClass name e c) :=
    erases_lift_bind _ fun e => hmaker.bind fun c => erases_defineClass name e c
  simp only [bind_assoc] at h
  rwa [classRule_eq]

inductive Branch.Erases : Branch → Walk.Branch → Prop where
  | mk {t : Tree} {w : Tracked Piece} {v : Walker Piece} {ws : List Branch} {vs : List Walk.Branch}
      (again : Tracked.Erases w v) (parts : List.Forall₂ Branch.Erases ws vs) :
      Erases (.mk t w ws) (.mk t v vs)

theorem Branch.Erases.tree {w : Branch} {v : Walk.Branch} (h : w.Erases v) : w.tree = v.tree := by
  cases h with
  | mk again parts => rfl

theorem Branch.Erases.again {w : Branch} {v : Walk.Branch} (h : w.Erases v) :
    Tracked.Erases w.again v.again := by
  cases h with
  | mk again parts => exact again

theorem Branch.Erases.parts {w : Branch} {v : Walk.Branch} (h : w.Erases v) :
    List.Forall₂ Branch.Erases w.parts v.parts := by
  cases h with
  | mk again parts => exact parts

theorem erases_subscriptRule {w : Branch} {v : Walk.Branch} (h : w.Erases v) (cs : List Piece) :
    Erases (subscriptRule w cs) (Walk.subscriptRule v cs) := by
  unfold subscriptRule Walk.subscriptRule
  refine erases_lift_bind _ fun target => ?_
  rw [← h.tree]
  refine erases_lift_bind _ fun t => ?_
  have hparts := h.parts
  generalize w.parts = ps, v.parts = ps' at hparts ⊢
  split
  · next lower upper step =>
    rcases hparts with _ | ⟨hl, _ | ⟨hu, _ | ⟨hst, _ | _⟩⟩⟩
    dsimp only
    rw [← hl.tree, ← hu.tree, ← hst.tree]
    have last (low : Piece) (high : List Piece) :=
      erases_pure (callOf (dot target "slice") (low :: high))
    have rest (low : Piece) := erases_ite (c := upper.tree.isTruthy)
      (hu.again.bind fun p => (erases_pure [p]).bind (last low)) ((erases_pure []).bind (last low))
    exact erases_guard (erases_ite (hl.again.bind rest) ((erases_pure _).bind rest))
  · next hne =>
    split
    · rcases hparts with _ | ⟨hl, _ | ⟨hu, _ | ⟨hst, _ | _⟩⟩⟩
      exact (hne _ _ _ _ rfl rfl).elim
    · exact erases_lift_bind _ fun index => erases_pure _

theorem erases_conditions {ws : List Branch} {vs : List Walk.Branch}
    (h : List.Forall₂ Branch.Erases ws vs) (acc : Piece) :
    Erases (conditions ws acc) (Walk.conditions vs acc) := by
  induction h generalizing acc with
  | nil => rfl
  | cons hw _ ih => exact hw.again.bind fun c => ih _

theorem erases_comprehensionRule {w : Branch} {v : Walk.Branch} (h : w.Erases v) :
    Erases (comprehensionRule w) (Walk.comprehensionRule v) := by
  unfold comprehensionRule Walk.comprehensionRule
  rw [← h.tree]
  refine erases_lift_bind _ fun n => erases_guard ?_
  have hparts := h.parts
  generalize w.parts = ps, v.parts = ps' at hparts ⊢
  split
  · rcases hparts with _ | ⟨⟨_, hfields⟩, _ | _⟩
    rcases hfields with _ | ⟨ht, _ | ⟨hs, _ | ⟨hi, _ | ⟨_, _ | _⟩⟩⟩⟩
    dsimp only
    rw [← hs.tree, ← ht.tree, ← hi.tree]
    refine erases_lift_bind _ fun _ => erases_lift_bind _ fun _ => erases_lift_bind _ fun _ => ?_
    refine (erases_draw .index).bind fun i => (erases_draw .length).bind fun n => ?_
    refine (erases_draw .values).bind fun values => (erases_draw .results).bind fun results => ?_
    refine erases_lift_bind _ fun vars => hs.again.bind fun filled => erases_ite ?_ ?_
    · exact (erases_conditions hi.parts _).bind fun test => erases_lift _
    · exact erases_lift _
  · next hne =>
    split
    · rcases hparts with _ | ⟨⟨_, hfields⟩, _ | _⟩
      rcases hfields with _ | ⟨ht, _ | ⟨hs, _ | ⟨hi, _ | ⟨_, _ | _⟩⟩⟩⟩
      exact (hne _ _ _ _ _ _ rfl).elim
    · rfl

theorem map_tree_erases {ws : List Branch} {vs : List Walk.Branch}
    (h : List.Forall₂ Branch.Erases ws vs) : ws.map Branch.tree = vs.map Walk.Branch.tree := by
  induction h with
  | nil => rfl
  | cons hw _ ih => simp [hw.tree, ih]

theorem erases_rule {ws : List Branch} {vs : List Walk.Branch}
    (h : List.Forall₂ Branch.Erases ws vs) (k : Kind) (cs : List Piece) :
    Erases (rule k ws cs) (Walk.rule k vs cs) := by
  unfold rule
  split
  · rcases h with _ | ⟨_, _ | ⟨h, _ | ⟨_, _ | _⟩⟩⟩
    exact erases_subscriptRule h cs
  · rcases h with _ | ⟨_, _ | ⟨h, _ | _⟩⟩
    exact erases_comprehensionRule h
  · exact erases_deleteRule cs
  · exact erases_assignRule cs
  · rcases h with _ | ⟨_, _ | ⟨hop, _ | ⟨_, _ | _⟩⟩⟩
    rw [hop.tree]
    exact erases_augmentRule _ cs
  · rcases h with _ | ⟨_, _ | ⟨hb, _ | ⟨he, _ | _⟩⟩⟩
    rw [hb.tree, he.tree]
    exact erases_whileRule _ _ cs
  · exact erases_forRule cs
  · rcases h with _ | ⟨hn, _ | ⟨_, _ | ⟨_, _ | ⟨hd, _ | ⟨_, _ | _⟩⟩⟩⟩⟩
    rw [hn.tree, hd.tree]
    exact erases_functionRule _ _ cs
  · rcases h with _ | ⟨hn, _⟩
    rw [hn.tree]
    exact erases_classRule _ _ cs
  · next hsub hcomp _ _ _ _ =>
    unfold Walk.rule
    split
    · rcases h with _ | ⟨_, _ | ⟨_, _ | ⟨_, _ | _⟩⟩⟩
      exact (hsub _ _ _ rfl rfl).elim
    · rcases h with _ | ⟨_, _ | ⟨_, _ | _⟩⟩
      exact (hcomp _ _ rfl rfl).elim
    · rw [map_tree_erases h]
      exact erases_lift _

/-! The walk -/

theorem erases_forM {f : Branch → Tracked PUnit} {g : Walk.Branch → Walker PUnit}
    (hf : ∀ w v, w.Erases v → Erases (f w) (g v)) {ws : List Branch} {vs : List Walk.Branch}
    (h : List.Forall₂ Branch.Erases ws vs) : Erases (ws.forM f) (vs.forM g) := by
  induction h with
  | nil => rfl
  | cons hw _ ih => exact (hf _ _ hw).bind fun _ => ih

theorem erases_again {w : Branch} {v : Walk.Branch} (h : w.Erases v) :
    Erases (do let _ ← w.again) (discard v.again) := by
  rw [discard_eq]
  exact h.again.bind fun _ => rfl

theorem erases_visitField {w : Branch} {v : Walk.Branch} (h : w.Erases v) :
    Erases (visitField w) (Walk.visitField v) := by
  unfold visitField Walk.visitField
  rw [h.tree]
  cases v.tree with
  | node k fs => exact erases_again h
  | list ts =>
    refine erases_forM (fun w v h => ?_) h.parts
    rw [h.tree]
    exact erases_ite (erases_again h) (erases_pure _)
  | atom a => rfl
  | missing => rfl

theorem erases_visitFields {k : Kind} {fs : List Tree} {ws : List Branch} {vs : List Walk.Branch}
    (h : List.Forall₂ Branch.Erases ws vs) :
    Erases (visitFields k fs ws) (vs.forM Walk.visitField) := by
  have hfields := erases_forM (fun _ _ => erases_visitField) h
  unfold visitFields
  split_ifs
  · exact hfields.enclosed _
  · exact hfields

theorem erases_visitNode {k : Kind} {fs : List Tree} {ws : List Branch}
    (h : List.Forall₂ Branch.Erases ws (Walk.walkAll fs)) :
    Erases (visitNode k fs ws) (Walk.visitNode k (Walk.walkAll fs)) := by
  rw [visitNode_eq]
  refine erases_lift_bind _ fun _ => (erases_visitFields h).bind fun _ => ?_
  refine erases_lift_bind _ fun _ => erases_lift_bind _ fun cs => ?_
  exact (erases_rule h k cs).bind fun p => erases_lift _

theorem forall₂_walkAll {ts : List Tree} (h : ∀ t ∈ ts, (walk t).Erases (Walk.walk t)) :
    List.Forall₂ Branch.Erases (walkAll ts) (Walk.walkAll ts) := by
  induction ts with
  | nil => exact .nil
  | cons t ts ih => exact .cons (h t (by simp)) (ih fun u hu => h u (by simp [hu]))

/-- Without its notes the walk is the walk. -/
theorem walk_erases (t : Tree) : (walk t).Erases (Walk.walk t) := by
  induction t using tree_induction with
  | missing => exact .mk (erases_throw _) .nil
  | atom a => exact .mk (erases_lift _) .nil
  | list ts ih => exact .mk (erases_lift _) (forall₂_walkAll ih)
  | node k fs ih => exact .mk (erases_visitNode (forall₂_walkAll ih)) (forall₂_walkAll ih)

section

variable {α : Type} {w : Tracked α} {v : Walker α} {o : Options} {s s' : State} {a : α}

/-- A run without notes from one with notes. -/
theorem Erases.run_of_tracked {es : List Entry} (h : Erases w v)
    (hrun : run w.run o s = (.ok (a, es), s')) : run v o s = (.ok a, s') := by
  rw [← h, map_eq_pure_bind, run_bind_of_ok hrun]
  rfl

theorem Erases.exists_tracked (h : Erases w v) (hrun : run v o s = (.ok a, s')) :
    ∃ es, run w.run o s = (.ok (a, es), s') := by
  rw [← h, map_eq_pure_bind] at hrun
  obtain ⟨e, s1, hw, hrun⟩ := run_bind_ok hrun
  cases hrun
  exact ⟨e.2, hw⟩

end

end Tracked

end Transpile.Walk
