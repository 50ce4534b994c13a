import Transpile.Proofs.Run

/-! What the rules change. A rule edits the state and walks parts of its node again, so it keeps
every frame that those walks keep; the rules of functions and programs also leave the scope that
was entered for them. -/

namespace Transpile.Walk

open Script Source

/-- The walk over the branch has the property, and so has every walk over a branch under it. -/
inductive Branch.All (P : Walker Piece → Prop) : Branch → Prop where
  | mk {t : Tree} {w : Walker Piece} {ps : List Branch} (again : P w)
      (parts : ∀ p ∈ ps, All P p) : All P (.mk t w ps)

theorem Branch.All.again {P : Walker Piece → Prop} {w : Branch} (h : w.All P) : P w.again := by
  cases h with
  | mk again parts => exact again

theorem Branch.All.parts {P : Walker Piece → Prop} {w : Branch} (h : w.All P) :
    ∀ p ∈ w.parts, p.All P := by
  cases h with
  | mk again parts => exact parts

theorem Branch.All.mono {P Q : Walker Piece → Prop} (hpq : ∀ w, P w → Q w) {w : Branch}
    (h : w.All P) : w.All Q := by
  induction h with
  | mk again parts ih => exact .mk (hpq _ again) ih

theorem Branch.All.at {R : State → State → Prop} {w : Branch} (h : w.All (Keeps R)) (o : Options) :
    w.All (KeepsAt o R) :=
  h.mono fun _ hw => hw o

theorem Branch.All.of_at {R : State → State → Prop} {w : Branch}
    (h : ∀ o, w.All (KeepsAt o R)) : w.All (Keeps R) := by
  induction h {} with
  | mk _ _ ih => exact .mk (fun o => (h o).again) fun p hp => ih p hp fun o => (h o).parts p hp

/-! Leaving a scope -/

def State.left (s : State) : State := { s with scope := s.scope.leave }

theorem outer_leave (sc : Scope) : sc.leave.outer = sc.outer.tail := by
  unfold Scope.leave
  split <;> simp_all

theorem special_leave (sc : Scope) : sc.leave.special = sc.special := by
  unfold Scope.leave
  split <;> rfl

theorem Edit.left {top : Bool} {s s' : State} (h : Edit top s s') : Edit top s.left s'.left := by
  refine ⟨h.levels, h.operators, h.depth, ?_, fun ht => ?_⟩
  · simp only [State.left, outer_leave, h.outer]
  · simp only [State.left, special_leave, h.special ht]

/-- Relations that follow a walk step by step, allow for every name that is bound and for a
constructor that is removed, and stay when a scope is left. -/
structure Scoped (R : State → State → Prop) : Prop where
  trans : ∀ {a b c}, R a b → R b c → R a c
  note : ∀ {a b}, Noted a b → R a b
  set : ∀ {s : State} {key : Option String} {p : Piece}, (s.scope.set key p).1 = .ok () →
    R s { s with scope := (s.scope.set key p).2 }
  unset : ∀ {s : State}, (s.scope.unset "__init__").1 = .ok () →
    R s { s with scope := (s.scope.unset "__init__").2 }
  left : ∀ {a b}, R a b → R a.left b.left

/-- The relation allows for special forms. -/
def Specials (R : State → State → Prop) : Prop :=
  ∀ {s : State} {key : Option String} {p : Piece}, (s.scope.setSpecial key p).1 = .ok () →
    R s { s with scope := (s.scope.setSpecial key p).2 }

theorem Scoped.steps {R : State → State → Prop} (h : Scoped R) (o : Options) : Steps o R :=
  ⟨h.trans, h.note, fun _ hok => h.set hok⟩

theorem Scoped.ofEdit (top : Bool) : Scoped (Edit top) where
  trans := Edit.trans
  note h := (Frame.ofEdit top).edit h.edit
  set _ := ⟨rfl, rfl, rfl, rfl, fun _ => rfl⟩
  unset _ := by
    unfold Scope.unset
    split_ifs <;> exact ⟨rfl, rfl, rfl, rfl, fun _ => rfl⟩
  left := Edit.left

theorem Specials.ofEdit : Specials (Edit true) :=
  fun _ => ⟨rfl, rfl, rfl, rfl, fun h => by cases h⟩

/-- The innermost scope is left, and what follows is of the relation. -/
def Closes (R : State → State → Prop) (s s' : State) : Prop := R s.left s'

section

variable {α β : Type} {o : Options} {R : State → State → Prop}

theorem keeps_closes_bind (hR : Scoped R) {w : Walker α} {f : α → Walker β} (hw : KeepsAt o R w)
    (hf : ∀ a, KeepsAt o (Closes R) (f a)) : KeepsAt o (Closes R) (w >>= f) := by
  intro s b s'' h
  obtain ⟨a, s', h1, h2⟩ := run_bind_ok h
  exact hR.trans (hR.left (hw s a s' h1)) (hf a s' b s'' h2)

theorem keeps_closes_leave {w : Unit → Walker β} (hw : KeepsAt o R (w ())) :
    KeepsAt o (Closes R) (leaveScope >>= w) := by
  intro s b s'' h
  obtain ⟨a, s', h1, h2⟩ := run_bind_ok h
  cases h1
  exact hw _ b s'' h2

/-- What is entered is left again. -/
theorem keeps_entered {w : Unit → Walker β} (hw : KeepsAt o (Closes R) (w ())) :
    KeepsAt o R (enterScope >>= w) := by
  intro s b s'' h
  obtain ⟨a, s', h1, h2⟩ := run_bind_ok h
  cases h1
  exact hw _ b s'' h2

end

/-! Expressions -/

section Expr

variable {o : Options} {R : State → State → Prop} (hR : Steps o R)
include hR

theorem keeps_operatorRule (op : Op) : KeepsAt o R (operatorRule op) := by
  unfold operatorRule
  split <;> exact keeps_pure hR _

theorem keeps_unaryRule (op : Tree) (cs : List Piece) : KeepsAt o R (unaryRule op cs) :=
  keeps_bind hR (keeps_operatorOf hR op) fun _ => keeps_bind hR (keeps_child hR cs 0) fun _ =>
    keeps_pure hR _

theorem keeps_grouped (p : Piece) : KeepsAt o R (grouped p) := by
  refine keeps_bind hR (keeps_bind hR (keeps_get hR) fun _ => keeps_pure hR _) fun _ => ?_
  exact keeps_ite (keeps_pure hR _) (keeps_pure hR _)

theorem keeps_binaryRule (op : Tree) (cs : List Piece) : KeepsAt o R (binaryRule op cs) := by
  refine keeps_bind hR (keeps_operatorOf hR op) fun b => ?_
  have two (f : Piece → Piece → Piece) :
      KeepsAt o R (do return f (← child cs 0) (← child cs 1)) :=
    keeps_bind hR (keeps_child hR cs 0) fun _ => keeps_bind hR (keeps_child hR cs 1) fun _ =>
      keeps_pure hR _
  split
  · exact two _
  · exact two _
  · split
    · exact two _
    · exact keeps_bind hR (keeps_child hR cs 1) fun _ => keeps_bind hR (keeps_child hR cs 0) fun _ =>
        keeps_bind hR (keeps_child hR cs 2) fun _ => keeps_grouped hR _

theorem keeps_boolRule (cs : List Piece) : KeepsAt o R (boolRule cs) :=
  keeps_bind hR (keeps_child hR cs 0) fun _ => keeps_bind hR (keeps_child hR cs 1) fun _ =>
    keeps_bind hR (keeps_child hR cs 2) fun _ => keeps_grouped hR _

theorem keeps_compareRule (cs : List Piece) : KeepsAt o R (compareRule cs) :=
  keeps_bind hR (keeps_child hR cs 1) fun _ => keeps_bind hR (keeps_child hR cs 0) fun _ =>
    keeps_bind hR (keeps_child hR cs 2) fun _ => keeps_pure hR _

theorem keeps_numberRule (n : Tree) : KeepsAt o R (numberRule n) := by
  refine keeps_bind hR (keeps_atomField hR n) fun v => ?_
  split
  · exact keeps_throw _
  · exact keeps_pure hR _

theorem keeps_stringRule (t : Tree) : KeepsAt o R (stringRule t) :=
  keeps_bind hR (keeps_atomField hR t) fun _ => keeps_pure hR _

theorem keeps_nameRule (id : Tree) : KeepsAt o R (nameRule id) := by
  refine keeps_bind hR (keeps_atomField hR id) fun v => ?_
  split
  · exact keeps_pure hR _
  · exact keeps_pure hR _
  · exact keeps_pure hR _
  · exact keeps_sourceName hR _

theorem keeps_callRule (func : Tree) (cs : List Piece) : KeepsAt o R (callRule func cs) := by
  refine keeps_bind hR (keeps_given hR func) fun t => ?_
  split <;> exact keeps_bind hR (keeps_child hR cs 0) fun _ => keeps_pure hR _

theorem keeps_attributeRule (name : Tree) (cs : List Piece) : KeepsAt o R (attributeRule name cs) :=
  keeps_bind hR (keeps_child hR cs 0) fun _ => keeps_bind hR (keeps_atomField hR name) fun _ =>
    keeps_bind hR (keeps_sourceName hR _) fun _ => keeps_pure hR _

/-- The bounds of a slice are walked again, and nothing else is. -/
theorem keeps_subscriptRule {slice : Branch} (hs : slice.All (KeepsAt o R)) (cs : List Piece) :
    KeepsAt o R (subscriptRule slice cs) := by
  refine keeps_bind hR (keeps_child hR cs 0) fun target => ?_
  refine keeps_bind hR (keeps_given hR slice.tree) fun t => ?_
  split
  · next lower upper step hp =>
    have hl : lower.All (KeepsAt o R) := hs.parts _ (by rw [hp]; simp)
    have hu : upper.All (KeepsAt o R) := hs.parts _ (by rw [hp]; simp)
    have rest (low : Piece) : KeepsAt o R (do
        let high ← if upper.tree.isTruthy then do pure [← upper.again] else pure []
        return callOf (dot target "slice") (low :: high)) :=
      keeps_ite (keeps_bind hR hu.again fun _ => keeps_pure hR _) (keeps_pure hR _)
    exact keeps_guard (keeps_ite (keeps_bind hR hl.again rest) (rest _))
  · exact keeps_bind hR (keeps_child hR cs 1) fun _ => keeps_pure hR _

theorem keeps_dictRule (cs : List Piece) : KeepsAt o R (dictRule cs) := by
  refine keeps_bind hR (keeps_mapM hR (fun e => ?_) _) fun _ => keeps_pure hR _
  exact keeps_bind hR (keeps_need hR _) fun _ => keeps_bind hR (keeps_sourceName hR _) fun _ =>
    keeps_pure hR _

theorem keeps_lambdaRule (cs : List Piece) : KeepsAt o R (lambdaRule cs) :=
  keeps_bind hR (keeps_child hR cs 0) fun _ => keeps_functionOf hR _ _

theorem keeps_conditions {ws : List Branch} (hw : ∀ w ∈ ws, w.All (KeepsAt o R)) (acc : Piece) :
    KeepsAt o R (conditions ws acc) := by
  induction ws generalizing acc with
  | nil => exact keeps_pure hR _
  | cons w ws ih =>
    exact keeps_bind hR (hw w (by simp)).again fun c => ih (fun v hv => hw v (by simp [hv])) _

theorem keeps_comprehensionRule {generators : Branch} (hg : generators.All (KeepsAt o R)) :
    KeepsAt o R (comprehensionRule generators) := by
  refine keeps_bind hR (keeps_sizeOfField hR _) fun n => ?_
  refine keeps_guard ?_
  split
  · next target source ifs _ hp =>
    have hc := hg.parts _ (by rw [hp]; exact List.mem_singleton_self _)
    have hsource : source.All (KeepsAt o R) := hc.parts _ (by simp [Branch.parts])
    have hifs : ifs.All (KeepsAt o R) := hc.parts _ (by simp [Branch.parts])
    refine keeps_bind hR (keeps_given hR _) fun _ => keeps_bind hR (keeps_given hR _) fun _ => ?_
    refine keeps_bind hR (keeps_given hR _) fun _ => keeps_bind hR (keeps_fresh hR _) fun i => ?_
    refine keeps_bind hR (keeps_fresh hR _) fun n => keeps_bind hR (keeps_fresh hR _) fun v => ?_
    refine keeps_bind hR (keeps_fresh hR _) fun r => ?_
    refine keeps_bind hR (keeps_mapM hR (fun p => keeps_declaration hR p _) _) fun vars => ?_
    refine keeps_bind hR hsource.again fun p => keeps_ite ?_ ?_
    · refine keeps_bind hR (keeps_conditions hR hifs.parts _) fun _ => ?_
      refine keeps_bind hR (keeps_pure hR _) fun body => ?_
      exact keeps_bind hR (keeps_functionOf hR _ _) fun _ => keeps_pure hR _
    · refine keeps_bind hR (keeps_pure hR _) fun body => ?_
      exact keeps_bind hR (keeps_functionOf hR _ _) fun _ => keeps_pure hR _
  · exact keeps_throw _

end Expr

/-! Statements -/

/-- What stands for a target in an assignment: a temporary for an array that takes an array, whose
parts are taken from there afterwards. -/
def placeTarget (value : Piece) (extras : List Piece) (t : Piece) : Walker (Piece × List Piece) :=
  match arrayParts? t, arrayParts? value with
  | some items, some _ => do
    let r ← fresh "_ref"
    pure (r, extras ++ unpack r items)
  | _, _ => pure (t, extras)

theorem assignTargets_cons (value t : Piece) (ts : List Piece) (chain : Piece)
    (extras : List Piece) : assignTargets value (t :: ts) chain extras = (do
      let t ← if isIdentifier t then Walk.bind t else pure t
      let e ← placeTarget value extras t
      assignTargets value ts (assignTo "=" e.1 (if chain.isAbsent then value else chain)) e.2) := by
  rw [assignTargets]
  generalize (if chain.isAbsent then value else chain) = source
  split_ifs
  all_goals
    refine bind_congr fun t => ?_
    unfold placeTarget
    dsimp only
    cases arrayParts? t <;> cases arrayParts? value <;> simp only [bind_assoc]

section Stmt

variable {o : Options} {R : State → State → Prop} (hR : Steps o R)
include hR

theorem keeps_expressionRule (cs : List Piece) : KeepsAt o R (expressionRule cs) :=
  keeps_bind hR (keeps_child hR cs 0) fun _ => keeps_pure hR _

theorem keeps_raiseRule (cs : List Piece) : KeepsAt o R (raiseRule cs) :=
  keeps_bind hR (keeps_child hR cs 0) fun _ => keeps_pure hR _

theorem keeps_deleteRule (cs : List Piece) : KeepsAt o R (deleteRule cs) := by
  refine keeps_bind hR (keeps_mapM hR (fun c => ?_) _) fun _ => keeps_pure hR _
  exact keeps_bind hR (keeps_bindByValue hR c) fun _ => keeps_pure hR _

/-- A target is bound if it is an identifier, whatever is done with it then. -/
theorem keeps_bindTarget {β : Type} (t : Piece) {f : Piece → Walker β} (hf : ∀ p, KeepsAt o R (f p)) :
    KeepsAt o R (if isIdentifier t then Walk.bind t >>= f else pure t >>= f) :=
  keeps_ite (keeps_bind hR (keeps_bindByValue hR t) hf) (keeps_bind hR (keeps_pure hR t) hf)

theorem keeps_placeTarget (value : Piece) (extras : List Piece) (t : Piece) :
    KeepsAt o R (placeTarget value extras t) := by
  unfold placeTarget
  split
  · exact keeps_bind hR (keeps_fresh hR _) fun _ => keeps_pure hR _
  · exact keeps_pure hR _

theorem keeps_assignTargets (value : Piece) (ts : List Piece) (chain : Piece) (extras : List Piece) :
    KeepsAt o R (assignTargets value ts chain extras) := by
  induction ts generalizing chain extras with
  | nil => exact keeps_pure hR _
  | cons t ts ih =>
    rw [assignTargets_cons]
    refine keeps_bindTarget hR t fun t => ?_
    exact keeps_bind hR (keeps_placeTarget hR _ _ _) fun e => ih _ _

theorem keeps_assignRule (cs : List Piece) : KeepsAt o R (assignRule cs) := by
  unfold assignRule
  split
  · exact keeps_throw _
  · refine keeps_bind hR (keeps_assignTargets hR _ _ _ _) fun e => ?_
    exact keeps_ite (keeps_pure hR _) (keeps_pure hR _)

theorem keeps_augmented (f : Piece → Piece → Piece) (target : Piece) (cs : List Piece) :
    KeepsAt o R (augmented f target cs) :=
  keeps_bind hR (keeps_child hR cs 1) fun _ => keeps_pure hR _

theorem keeps_augmentRule (op : Tree) (cs : List Piece) : KeepsAt o R (augmentRule op cs) := by
  refine keeps_bind hR (keeps_child hR cs 0) fun target => ?_
  refine keeps_bind hR (keeps_operatorOf hR op) fun b => ?_
  split
  · exact keeps_bind hR (keeps_augmented hR _ _ _) fun _ => keeps_pure hR _
  · exact keeps_bind hR (keeps_augmented hR _ _ _) fun _ => keeps_pure hR _
  · refine keeps_bind hR (keeps_child hR cs 1) fun op => ?_
    refine keeps_bind hR (keeps_child hR cs 2) fun value => keeps_bindTarget hR target fun t => ?_
    split
    · exact keeps_pure hR _
    · exact keeps_throw _

theorem keeps_ifRule (body orelse : Tree) (cs : List Piece) : KeepsAt o R (ifRule body orelse cs) := by
  refine keeps_bind hR (keeps_child hR cs 0) fun test => ?_
  refine keeps_bind hR (keeps_sizeOfField hR body) fun n => ?_
  refine keeps_bind hR (keeps_sizeOfField hR orelse) fun m => keeps_ite (keeps_pure hR _) ?_
  refine keeps_ite ?_ (keeps_pure hR _)
  exact keeps_bind hR (keeps_child hR _ 0) fun _ => keeps_pure hR _

theorem keeps_whileRule (body orelse : Tree) (cs : List Piece) :
    KeepsAt o R (whileRule body orelse cs) := by
  refine keeps_bind hR (keeps_child hR cs 0) fun test => ?_
  refine keeps_bind hR (keeps_sizeOfField hR body) fun n => ?_
  refine keeps_bind hR (keeps_given hR orelse) fun t => keeps_ite ?_ (keeps_pure hR _)
  exact keeps_bind hR (keeps_fresh hR _) fun _ => keeps_pure hR _

theorem keeps_forRule (cs : List Piece) : KeepsAt o R (forRule cs) := by
  refine keeps_bind hR (keeps_fresh hR _) fun i => keeps_bind hR (keeps_fresh hR _) fun values => ?_
  refine keeps_bind hR (keeps_child hR cs 0) fun item => ?_
  refine keeps_bind hR (keeps_child hR cs 1) fun source => ?_
  refine keeps_bind hR (keeps_child hR cs 2) fun body => ?_
  refine keeps_bind hR (keeps_declaration hR _ _) fun _ => ?_
  exact keeps_bind hR (keeps_bindByValue hR item) fun _ => keeps_pure hR _

theorem keeps_tryRule (final : Tree) (cs : List Piece) : KeepsAt o R (tryRule final cs) :=
  keeps_bind hR (keeps_sizeOfField hR final) fun _ => keeps_pure hR _

theorem keeps_handlerRule (name : Tree) (cs : List Piece) : KeepsAt o R (handlerRule name cs) :=
  keeps_bind hR (keeps_atomField hR name) fun _ => keeps_bind hR (keeps_sourceName hR _) fun _ =>
    keeps_bind hR (keeps_need hR _) fun _ => keeps_pure hR _

theorem keeps_entry (es : List (String × Atom)) (k : String) : KeepsAt o R (entry es k) := by
  unfold entry
  split
  · exact keeps_pure hR _
  · exact keeps_throw _

theorem keeps_importOne (p : Piece) : KeepsAt o R (importOne p) := by
  unfold importOne
  split
  · refine keeps_bind hR (keeps_entry hR _ _) fun name => ?_
    have named (es name) : KeepsAt o R (localName es name) :=
      keeps_bind hR (keeps_entry hR _ _) fun _ => keeps_pure hR _
    split
    · refine keeps_bind hR (named _ _) fun n => keeps_modify hR fun s => ?_
      exact ⟨rfl, rfl, rfl, rfl⟩
    · refine keeps_bind hR (named _ _) fun n => keeps_modify hR fun s => ?_
      exact ⟨rfl, rfl, rfl, rfl⟩
    · exact keeps_pure hR _
  · exact keeps_throw _

theorem keeps_importRule (cs : List Piece) : KeepsAt o R (importRule cs) :=
  keeps_bind hR (keeps_forM hR cs fun p _ => keeps_importOne hR p) fun _ => keeps_pure hR _

theorem keeps_aliasRule (name asName : Tree) (place : List Tree) :
    KeepsAt o R (aliasRule name asName place) := by
  unfold aliasRule
  split <;> exact keeps_pure hR _

end Stmt

/-! Functions, classes and programs -/

section Scopes

variable {o : Options} {R : State → State → Prop}

theorem Scoped.keeps_bindAs (hR : Scoped R) (key p : Piece) : KeepsAt o R (bindAs key p) :=
  Walk.keeps_bindAs (hR.steps o) fun _ _ => keeps_changeScope fun _ => hR.set

/-- How many of the results are decorators. -/
def decoratorCount (decorators : Tree) : Walker Nat := do
  if (← given decorators).isTruthy then sizeOfField decorators else pure 0

/-- The definition of a function from what its scope declares and its results, of which the last `n`
are decorators. -/
def defineFunction (name : Tree) (cs vars : List Piece) (n : Nat) : Walker Piece := do
  let (body, applied) := if n = 0 then (cs.drop 1, []) else ((butLast n cs).drop 1, lastOf n cs)
  let key ← atomField name
  let id ← declare (← sourceName key)
  let f ← functionOf (Seq.ofPiece (← child cs 0)) (.items (vars ++ body))
  let definition := statement (Form.varDecl id f).piece
  leaveScope
  let _ ← bindAs key id
  match applied with
  | [] => return definition
  | ds => return splice (definition :: (ds.map fun d =>
      statement (assignTo "=" id (callOf d [id]))).reverse)

theorem functionRule_eq (name decorators : Tree) (cs : List Piece) :
    functionRule name decorators cs = (do
      let vars ← scopeVars false
      let n ← decoratorCount decorators
      defineFunction name cs vars n) := by
  unfold functionRule decoratorCount
  refine bind_congr fun vars => ?_
  rw [bind_assoc]
  refine bind_congr fun t => ?_
  split_ifs <;> rfl

/-- The function of a class and its other functions; the name of a constructor is removed. -/
def classParts (cs : List Piece) : Walker (Piece × List (Piece × Piece)) :=
  match (cs.filterMap method?).find? isConstructor with
  | some m => do
    changeScope (·.unset "__init__")
    pure (m.2, dropConstructor (cs.filterMap method?))
  | none => do pure (← functionOf (.items []) (.items []), cs.filterMap method?)

/-- The definition of a class from its parts and the temporary for its function. -/
def defineClass (name : Tree) (e : Piece × List (Piece × Piece)) (c : Piece) : Walker Piece := do
  let body := statement (assignTo "=" c e.1) ::
    (e.2.map fun m =>
      statement (assignTo "=" (Form.dot (dot c "prototype") m.1).piece m.2)) ++
    [(Form.returns c).piece]
  let vars ← scopeVars false
  let closure ← functionOf (.items []) (.items (vars ++ body))
  let key ← atomField name
  let id ← sourceName key
  leaveScope
  let id ← bindAs key id
  return statement (assignTo "=" id (callOf closure.inParens []))

theorem classRule_eq (name : Tree) (cs : List Piece) : classRule name cs = (do
    let e ← classParts cs
    enterScope
    let c ← fresh "classref"
    defineClass name e c) := by
  unfold classRule classParts
  dsimp only
  cases (cs.filterMap method?).find? isConstructor with
  | none =>
    simp only [bind_assoc, pure_bind]
    rfl
  | some m =>
    simp only [bind_assoc, pure_bind]
    rfl

variable (hR : Scoped R)
include hR

/-- A function is left before its name is bound. -/
theorem closes_functionRule (name decorators : Tree) (cs : List Piece) :
    KeepsAt o (Closes R) (functionRule name decorators cs) := by
  have hS := hR.steps o
  rw [functionRule_eq]
  refine keeps_closes_bind hR (keeps_scopeVars hS _) fun vars => keeps_closes_bind hR ?_ fun n => ?_
  · exact keeps_bind hS (keeps_given hS _) fun t =>
      keeps_ite (keeps_sizeOfField hS _) (keeps_pure hS _)
  refine keeps_closes_bind hR (keeps_atomField hS _) fun key => ?_
  refine keeps_closes_bind hR (keeps_sourceName hS _) fun p => ?_
  refine keeps_closes_bind hR (keeps_declare hS _) fun id => ?_
  refine keeps_closes_bind hR (keeps_child hS _ _) fun params => ?_
  refine keeps_closes_bind hR (keeps_functionOf hS _ _) fun f => keeps_closes_leave ?_
  refine keeps_bind hS (hR.keeps_bindAs _ _) fun _ => ?_
  dsimp only
  split <;> exact keeps_pure hS _

theorem keeps_classParts (cs : List Piece) : KeepsAt o R (classParts cs) := by
  have hS := hR.steps o
  unfold classParts
  split
  · exact keeps_bind hS (keeps_changeScope fun _ => hR.unset) fun _ => keeps_pure hS _
  · exact keeps_bind hS (keeps_functionOf hS _ _) fun _ => keeps_pure hS _

theorem keeps_classRule (name : Tree) (cs : List Piece) : KeepsAt o R (classRule name cs) := by
  have hS := hR.steps o
  rw [classRule_eq]
  refine keeps_bind hS (keeps_classParts hR cs) fun e => ?_
  refine keeps_entered (keeps_closes_bind hR (keeps_fresh hS _) fun c => ?_)
  refine keeps_closes_bind hR (keeps_scopeVars hS _) fun vars => ?_
  refine keeps_closes_bind hR (keeps_functionOf hS _ _) fun closure => ?_
  refine keeps_closes_bind hR (keeps_atomField hS _) fun key => ?_
  refine keeps_closes_bind hR (keeps_sourceName hS _) fun id => keeps_closes_leave ?_
  exact keeps_bind hS (hR.keeps_bindAs _ _) fun _ => keeps_pure hS _

theorem keeps_specialForm (hspecial : Specials R) (name : Option String) (value : Piece)
    (body : List Piece) : KeepsAt o R (specialForm name value body) := by
  have hS := hR.steps o
  unfold specialForm
  split
  · exact keeps_pure hS _
  · refine keeps_ite (keeps_pure hS _) ?_
    refine keeps_bind hS (keeps_sourceName hS _) fun p => keeps_bind hS (keeps_atSite hS _) fun id => ?_
    exact keeps_bind hS (keeps_changeScope fun _ => hspecial) fun _ => keeps_pure hS _

theorem closes_programRule (hspecial : Specials R) (cs : List Piece) :
    KeepsAt o (Closes R) (programRule cs) := by
  have hS := hR.steps o
  refine keeps_closes_bind hR (keeps_get hS) fun s => ?_
  refine keeps_closes_bind hR (keeps_specialForm hR hspecial _ _ _) fun body => ?_
  refine keeps_closes_bind hR (keeps_get hS) fun s' => ?_
  refine keeps_closes_bind hR (keeps_specialForm hR hspecial _ _ _) fun body => ?_
  refine keeps_closes_bind hR (keeps_scopeVars hS _) fun vars => keeps_closes_leave ?_
  refine keeps_bind hS (keeps_read hS) fun o => keeps_ite ?_ (keeps_pure hS _)
  exact keeps_bind hS (keeps_functionOf hS _ _) fun _ => keeps_pure hS _

end Scopes

/-- The rules that neither leave a scope nor remove a name: all but those of functions, programs and
classes. -/
theorem steps_fieldRule {o : Options} {R : State → State → Prop} (hR : Steps o R) {k : Kind}
    (hk : opensScope k = false) (hclass : k ≠ .classDef) (fs : List Tree) (cs : List Piece) :
    KeepsAt o R (fieldRule k fs cs) := by
  unfold fieldRule
  split
  · exact keeps_operatorRule hR _
  · exact keeps_unaryRule hR _ _
  · exact keeps_binaryRule hR _ _
  · exact keeps_boolRule hR _
  · exact keeps_compareRule hR _
  · exact keeps_numberRule hR _
  · exact keeps_stringRule hR _
  · exact keeps_nameRule hR _
  · exact keeps_callRule hR _ _
  · exact keeps_attributeRule hR _ _
  · exact keeps_child hR _ _
  · exact keeps_pure hR _
  · exact keeps_pure hR _
  · exact keeps_dictRule hR _
  · exact keeps_lambdaRule hR _
  · exact keeps_pure hR _
  · exact keeps_bind hR (keeps_atomField hR _) fun _ => keeps_sourceName hR _
  · exact keeps_expressionRule hR _
  · exact keeps_pure hR _
  · exact keeps_raiseRule hR _
  · exact keeps_deleteRule hR _
  · exact keeps_assignRule hR _
  · exact keeps_augmentRule hR _ _
  · exact keeps_pure hR _
  · exact keeps_pure hR _
  · exact keeps_ifRule hR _ _ _
  · exact keeps_whileRule hR _ _ _
  · exact keeps_forRule hR _
  · exact keeps_tryRule hR _ _
  · exact keeps_handlerRule hR _ _
  · exact keeps_importRule hR _
  · exact keeps_aliasRule hR _ _ _
  · cases hk
  · cases hk
  · exact absurd rfl hclass
  · cases hk
  · exact keeps_pure hR _

/-- Such a rule keeps what the walks over its parts keep. -/
theorem steps_rule {o : Options} {R : State → State → Prop} (hR : Steps o R) {k : Kind}
    (hk : opensScope k = false) (hclass : k ≠ .classDef) {ws : List Branch}
    (hw : ∀ w ∈ ws, w.All (KeepsAt o R)) (cs : List Piece) : KeepsAt o R (rule k ws cs) := by
  unfold rule
  split
  · exact keeps_subscriptRule hR (hw _ (by simp)) _
  · exact keeps_comprehensionRule hR (hw _ (by simp))
  · exact steps_fieldRule hR hk hclass _ _

/-- A rule that leaves no scope keeps every frame that the walks over its parts keep. -/
theorem keeps_rule {o : Options} {R : State → State → Prop} (hR : Frame R) {k : Kind}
    (hk : opensScope k = false) {ws : List Branch} (hw : ∀ w ∈ ws, w.All (KeepsAt o R))
    (cs : List Piece) : KeepsAt o R (rule k ws cs) := by
  by_cases hclass : k = .classDef
  · subst hclass
    intro s p s' h
    refine hR.edit ?_
    cases ws with
    | nil =>
      cases h
      exact Edit.refl _ _
    | cons name ws => exact keeps_classRule (Scoped.ofEdit false) name.tree cs s p s' h
  · exact steps_rule (hR.steps o) hk hclass hw cs

/-- The rules that leave a scope are those of the classes that enter one. -/
theorem closes_rule {o : Options} {R : State → State → Prop} (hR : Scoped R) {k : Kind}
    (hspecial : k = .module → Specials R) (hk : opensScope k = true) (ws : List Branch)
    (cs : List Piece) : KeepsAt o (Closes R) (rule k ws cs) := by
  cases k <;> cases hk
  · exact closes_programRule hR (hspecial rfl) cs
  · match ws with
    | [name, _, _, decorators, _] => exact closes_functionRule hR name.tree decorators.tree cs
    | [] | [_] | [_, _] | [_, _, _] | [_, _, _, _] | _ :: _ :: _ :: _ :: _ :: _ :: _ =>
      exact keeps_throw _

theorem edits_rule {o : Options} {k : Kind} (hk : opensScope k = true) (ws : List Branch)
    (cs : List Piece) : KeepsAt o (Closes (Edit (k == .module))) (rule k ws cs) :=
  closes_rule (Scoped.ofEdit _) (fun h => by subst h; exact Specials.ofEdit) hk ws cs

end Transpile.Walk
