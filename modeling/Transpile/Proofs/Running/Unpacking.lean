import Transpile.Proofs.Progress.Names
import Transpile.Proofs.Rules
import Transpile.Proofs.Running.Meaning

/-! Assignments of several values at once. A value that is a list of names and numbers is assigned to a
chain of targets, each a name or a list of names: it is evaluated once, and then the targets are bound
from left to right. The script assigns the whole list to all targets first, the last one first, and takes
the parts from temporaries afterwards. Main statement: this gives every name the value it should have
exactly if the two orders of writing leave each name with the same part. -/

namespace Transpile.Running

open Source (Tree Kind)
open Script Walk

/-- A name that stands for no constant. -/
structure Variable where
  text : String
  plain : text ∉ ["None", "True", "False"]

inductive Target where
  | name (x : Variable)
  | parts (square : Bool) (xs : List Variable)

/-- A name or a number. -/
inductive Item where
  | name (x : Variable)
  | number (a : Atom) (fits : a ≠ .vast)

/-- Values for a chain of targets, as many as each list of names wants. -/
structure Unpacking where
  targets : List Target
  square : Bool
  items : List Item
  nonempty : targets ≠ []
  fits : ∀ square xs, .parts square xs ∈ targets → xs.length = items.length

def nameTree (use : Tree) (x : Variable) : Tree := .node .name [.text x.text, use]

/-- A list with brackets or without. -/
def listTree (square : Bool) (ts : List Tree) (use : Tree) : Tree :=
  .node (if square then .list else .tuple) [.list ts, use]

def Target.tree (use : Tree) : Target → Tree
  | name x => nameTree use x
  | parts square xs => listTree square (xs.map (nameTree use)) use

def Item.tree (use : Tree) : Item → Tree
  | name x => nameTree use x
  | number a _ => .node .num [.atom a]

/-- The names that a target binds. -/
def Target.names : Target → List String
  | name x => [x.text]
  | parts _ xs => xs.map (·.text)

def Item.names : Item → List String
  | name x => [x.text]
  | number _ _ => []

namespace Unpacking

variable (a : Unpacking)

def tree (store load : Tree) : Tree :=
  .node .assign [.list (a.targets.map (Target.tree store)),
    listTree a.square (a.items.map (Item.tree load)) load]

def names : List String := a.targets.flatMap Target.names ++ a.items.flatMap Item.names

end Unpacking

/-! The rule -/

section

variable {α : Type} (w : World α) (o : Options)

def Item.value (σ : Store α) : Item → Value α
  | name x => σ (nameIn o x.text)
  | number a _ => .ofNumber (w.numeral a.shown)

/-- Binds the target to the array of the values, or its names to the values. -/
def Target.bindTo (vs : List (Value α)) (σ : Store α) : Target → Store α
  | name x => Function.update σ (nameIn o x.text) (.array vs)
  | parts _ xs => ((xs.map fun x => nameIn o x.text).zip vs).foldl
      (fun σ e => Function.update σ e.1 e.2) σ

/-- The store after the values were evaluated and the targets bound from left to right. -/
def Unpacking.bound (a : Unpacking) (σ : Store α) : Store α :=
  a.targets.foldl (Target.bindTo o (a.items.map (Item.value w o σ))) σ

end

/-! Writing in some order -/

/-- What a name is left with: all of the list, what a name had at first, or a number. -/
inductive Origin (α : Type) where
  | whole
  | start (x : String)
  | number (n : Nat ⊕ α)
  deriving DecidableEq

abbrev Writes (α : Type) := List (String × Origin α)

section

variable {α : Type}

def Origin.value (σ : Store α) (vs : List (Value α)) : Origin α → Value α
  | whole => .array vs
  | start x => σ x
  | number n => .ofNumber n

/-- What the name is left with after the writes, given what it is left with before them. -/
def leftWith (x : String) : Origin α → Writes α → Origin α :=
  List.foldl fun q e => if e.1 = x then e.2 else q

def write (σ : Store α) (vs : List (Value α)) : Store α → Writes α → Store α :=
  List.foldl fun τ e => Function.update τ e.1 (e.2.value σ vs)

theorem write_apply {σ τ : Store α} {vs : List (Value α)} {x : String} {q : Origin α}
    (h : τ x = q.value σ vs) (ws : Writes α) :
    write σ vs τ ws x = (leftWith x q ws).value σ vs := by
  induction ws generalizing τ q with
  | nil => exact h
  | cons e ws ih =>
    refine ih ?_
    beta_reduce
    by_cases he : e.1 = x
    · rw [if_pos he, ← he, Function.update_self]
    · rw [if_neg he, Function.update_of_ne (Ne.symm he), h]

theorem leftWith_append (x : String) (q : Origin α) (ws ws' : Writes α) :
    leftWith x q (ws ++ ws') = leftWith x (leftWith x q ws) ws' := List.foldl_append

/-- A name that all of the list is written to, and nothing else. -/
theorem leftWith_whole {ns : List String} {x : String} (h : x ∈ ns) (q : Origin α) :
    leftWith x q (ns.map fun n => (n, .whole)) = .whole := by
  have hkeep (ns : List String) : leftWith (α := α) x .whole (ns.map fun n => (n, .whole)) = .whole := by
    induction ns with
    | nil => rfl
    | cons n ns ih =>
      refine Eq.trans ?_ ih
      change leftWith x (if n = x then .whole else .whole) _ = _
      rw [ite_self]
  induction ns generalizing q with
  | nil => cases h
  | cons n ns ih =>
    change leftWith x (if n = x then .whole else q) _ = _
    split_ifs with hn
    · exact hkeep ns
    · exact ih ((List.mem_cons.1 h).resolve_left (Ne.symm hn)) q

theorem ofNumber_inj {m n : Nat ⊕ α} (h : Value.ofNumber m = .ofNumber n) : m = n := by
  cases m <;> cases n <;> cases h <;> rfl

theorem ofNumber_ne_array (n : Nat ⊕ α) (vs : List (Value α)) : Value.ofNumber n ≠ .array vs := by
  cases n <;> nofun

/-- Different origins are told apart by some store. -/
theorem exists_value_ne {p q : Origin α} (h : p ≠ q) (f : Store α → List (Value α)) :
    ∃ σ, p.value σ (f σ) ≠ q.value σ (f σ) := by
  cases p with
  | whole =>
    cases q with
    | whole => exact absurd rfl h
    | start y => exact ⟨fun _ => .bool true, nofun⟩
    | number n => exact ⟨fun _ => .bool true, fun e => ofNumber_ne_array n _ e.symm⟩
  | start x =>
    cases q with
    | whole => exact ⟨fun _ => .bool true, nofun⟩
    | start y =>
      have hxy : x ≠ y := fun e => h (e ▸ rfl)
      refine ⟨fun z => .bool (z = x), fun e => ?_⟩
      simp [Origin.value, Ne.symm hxy] at e
    | number n => exact ⟨fun _ => .array [], fun e => ofNumber_ne_array n _ e.symm⟩
  | number m =>
    cases q with
    | whole => exact ⟨fun _ => .bool true, ofNumber_ne_array m _⟩
    | start y => exact ⟨fun _ => .array [], ofNumber_ne_array m _⟩
    | number n => exact ⟨fun _ => .bool true, fun e => h (ofNumber_inj e ▸ rfl)⟩

end

section

variable {α : Type} (w : World α) (o : Options)

def Item.origin : Item → Origin α
  | name x => .start (nameIn o x.text)
  | number a _ => .number (w.numeral a.shown)

/-- Writing all of the list to a name. -/
def Target.wholes : Target → Writes α
  | name x => [(nameIn o x.text, .whole)]
  | parts _ _ => []

/-- Writing the parts of the list to the names of another. -/
def Target.shares (qs : List (Origin α)) : Target → Writes α
  | name _ => []
  | parts _ xs => (xs.map fun x => nameIn o x.text).zip qs

namespace Unpacking

variable (a : Unpacking)

def origins : List (Origin α) := a.items.map (Item.origin w o)

/-- Target by target, from left to right. -/
def sourceWrites : Writes α :=
  a.targets.flatMap fun t => t.wholes o ++ t.shares o (a.origins w o)

/-- From right to left, first all that is written whole and then the parts. -/
def scriptWrites : Writes α :=
  a.targets.reverse.flatMap (Target.wholes o) ++ a.targets.reverse.flatMap (Target.shares o (a.origins w o))

end Unpacking

end

/-! The two orders of writing -/

section

variable {α : Type} {w : World α} {o : Options} {σ : Store α} {x : String}

theorem Item.value_origin (σ : Store α) (vs : List (Value α)) (i : Item) :
    (i.origin w o).value σ vs = i.value w o σ := by
  cases i <;> rfl

theorem Unpacking.values_origins (a : Unpacking) (σ : Store α) (vs : List (Value α)) :
    (a.origins w o).map (Origin.value σ vs) = a.items.map (Item.value w o σ) := by
  rw [origins, List.map_map]
  exact List.map_congr_left fun i _ => i.value_origin σ vs

/-- Values that are bound one by one are written one by one. -/
theorem foldl_zip_eq_write (ns : List String) (qs : List (Origin α)) (vs : List (Value α))
    (τ : Store α) : (ns.zip (qs.map (Origin.value σ vs))).foldl
        (fun τ e => Function.update τ e.1 e.2) τ = write σ vs τ (ns.zip qs) := by
  induction ns generalizing qs τ with
  | nil => rfl
  | cons n ns ih =>
    cases qs with
    | nil => rfl
    | cons q qs => exact ih qs _

theorem Unpacking.bound_eq_write (a : Unpacking) (σ : Store α) :
    a.bound w o σ = write σ (a.items.map (Item.value w o σ)) σ (a.sourceWrites w o) := by
  unfold bound sourceWrites write
  rw [List.foldl_flatMap]
  congr 1
  funext τ t
  cases t with
  | name x => rfl
  | parts square xs =>
    have hzip := foldl_zip_eq_write (σ := σ) (xs.map fun x => nameIn o x.text) (a.origins w o)
      (a.items.map (Item.value w o σ)) τ
    rw [a.values_origins] at hzip
    exact hzip

theorem Unpacking.bound_apply (a : Unpacking) (σ : Store α) (x : String) : a.bound w o σ x =
    (leftWith x (.start x) (a.sourceWrites w o)).value σ (a.items.map (Item.value w o σ)) := by
  rw [a.bound_eq_write]
  exact write_apply rfl _

end

/-! The walk -/

/-- What is walked of a target. -/
def Target.piece (o : Options) : Target → Piece
  | name x => word (nameIn o x.text)
  | parts _ xs => (Form.array (.items (xs.map fun x => word (nameIn o x.text)))).piece

def Item.piece (o : Options) : Item → Piece
  | name x => word (nameIn o x.text)
  | number a _ => leaf .number a.shown

/-- The whole list as a form. -/
def Unpacking.value (o : Options) (a : Unpacking) : Piece :=
  (Form.array (.items (a.items.map (Item.piece o)))).piece

/-- The name that stands on the left for a target: its own, or that of a temporary for a list. -/
def Target.IsLeft (o : Options) (n : String) : Target → Prop
  | name x => n = nameIn o x.text
  | parts _ _ => ∃ i, n = nameIn o (Scope.numbered "_ref" i)

/-- A target with what stands for it on the left. -/
structure Place (o : Options) where
  target : Target
  left : Piece
  name : String
  isName : identifier? left = some name
  isLeft : target.IsLeft o name

/-- One more target on the left of what is assigned so far. -/
def assignMore (value chain l : Piece) : Piece :=
  assignTo "=" l (if chain.isAbsent then value else chain)

/-- What is left to do for a target once its temporary holds the list. -/
def Target.rest (o : Options) (l : Piece) : Target → List Piece
  | name _ => []
  | parts _ xs => unpack l (xs.map fun x => word (nameIn o x.text))

theorem Target.present_of_mem_rest {o : Options} {l p : Piece} (t : Target) (hp : p ∈ t.rest o l) :
    (!p.isAbsent) = true := by
  cases t with
  | name x => cases hp
  | parts square xs =>
    obtain ⟨e, -, rfl⟩ := List.mem_map.1 hp
    rfl

section

variable {o : Options} {I : State → Prop} {ops : Stack Kind} {use : Tree}

theorem gives_nameTree (hI : Stable I) (huse : IsUse use) (x : Variable) :
    Gives o I ops (visit (nameTree use x)) (· = word (nameIn o x.text)) :=
  gives_name hI x.plain huse

/-- A list of trees whose forms are known. -/
theorem gives_listTree (hI : Stable I) (huse : IsUse use) (square : Bool) {β : Type} {f : β → Tree}
    {g : β → Piece} (xs : List β) (hform : ∀ x, IsForm (g x))
    (h : ∀ x ∈ xs, (f x).isNode = true ∧ Gives o I ops (visit (f x)) (· = g x)) :
    Gives o I ops (visit (listTree square (xs.map f) use))
      (· = (Form.array (.items (xs.map g))).piece) := by
  have hfields := gives_fields (yields_each (fun x p (hp : p = g x) => by rw [hp]; exact (hform x).spliced) h)
    (gives_fields (yields_use hI huse) gives_no_fields)
  have hrule (cs : List Piece) (hcs : ∃ c d, cs = c ++ d ∧ List.Forall₂ (fun x p => p = g x) xs c ∧
      ∃ c' d', d = c' ++ d' ∧ c' = [] ∧ d' = []) :
      Gives o I ops (arrayRule cs) (· = (Form.array (.items (xs.map g))).piece) := by
    obtain ⟨c, _, rfl, hc, _, _, rfl, rfl, rfl⟩ := hcs
    obtain rfl := eq_map_of_forall₂ hc
    rw [List.append_nil, List.append_nil]
    exact gives_pure rfl
  cases square with
  | true => exact gives_node hI rfl rfl hfields hrule
  | false => exact gives_node hI rfl rfl hfields hrule

theorem isForm_word (s : String) : IsForm (word s) := isForm_piece (by simp)

theorem gives_target (hI : Stable I) (huse : IsUse use) (t : Target) :
    (t.tree use).isNode = true ∧ Gives o I ops (visit (t.tree use)) (· = t.piece o) := by
  cases t with
  | name x => exact ⟨rfl, gives_nameTree hI huse x⟩
  | parts square xs =>
    exact ⟨rfl, gives_listTree hI huse square xs (fun _ => isForm_word _)
      fun x _ => ⟨rfl, gives_nameTree hI huse x⟩⟩

theorem gives_item (hI : Stable I) (huse : IsUse use) (i : Item) :
    (i.tree use).isNode = true ∧ Gives o I ops (visit (i.tree use)) (· = i.piece o) := by
  cases i with
  | name x => exact ⟨rfl, gives_nameTree hI huse x⟩
  | number a fits => exact ⟨rfl, gives_number hI fits⟩

theorem Target.isForm_piece (t : Target) : IsForm (t.piece o) := by
  cases t <;> exact Walk.isForm_piece (by simp)

theorem Item.isForm_piece (i : Item) : IsForm (i.piece o) := by
  cases i <;> exact Walk.isForm_piece (by simp)

/-- A new name is a stem with a number. -/
theorem gives_numbered (stem : String) : Gives o Unguarded ops (fresh stem) fun p =>
    ∃ i, identifier? p = some (nameIn o (Scope.numbered stem i)) := by
  refine gives_bind gives_get fun s _ => gives_bind_eq (gives_sourceName _) ?_
  refine gives_bind (gives_site unguarded_stable _ _) ?_
  rintro _ ⟨m, rfl⟩
  refine gives_bind (gives_changeScope fun _ h => h.set _ _) fun _ _ => gives_pure ⟨_, rfl⟩

/-- The parts of a list of words are the words. -/
theorem arrayParts?_words (ns : List String) :
    arrayParts? (Form.array (.items (ns.map word))).piece = some (ns.map word) := by
  refine congrArg some (List.filter_eq_self.2 fun p hp => ?_)
  obtain ⟨n, -, rfl⟩ := List.mem_map.1 hp
  rfl

/-- One target is put on the left, and what is left to do for it is added at the end. -/
theorem gives_stands (a : Unpacking) (t : Target) (extras : List Piece) {β : Type}
    {f : Piece × List Piece → Walker β} {Q : β → Prop} (hf : ∀ e : Place o, e.target = t →
      Gives o Unguarded ops (f (e.left, extras ++ t.rest o e.left)) Q) :
    Gives o Unguarded ops (if isIdentifier (t.piece o)
      then Walk.bind (t.piece o) >>= fun t => placeTarget (a.value o) extras t >>= f
      else pure (t.piece o) >>= fun t => placeTarget (a.value o) extras t >>= f) Q := by
  cases t with
  | name x =>
    have hident : isIdentifier ((Target.name x).piece o) = true := rfl
    rw [if_pos hident]
    refine gives_bind (gives_bind_eq gives_need (gives_bindForm _ _ _)) ?_
    rintro _ ⟨m, rfl⟩
    have hname := hf ⟨.name x, .node (.leaf .ident (.text (nameIn o x.text))) m, _, rfl, rfl⟩ rfl
    rw [Target.rest, List.append_nil] at hname
    exact gives_bind_eq (gives_pure rfl) hname
  | parts square xs =>
    have hparts : arrayParts? ((Target.parts square xs).piece o) =
        some (xs.map fun x => word (nameIn o x.text)) := by
      have hwords := arrayParts?_words (xs.map fun x => nameIn o x.text)
      rw [List.map_map] at hwords
      exact hwords
    have hplace : placeTarget (a.value o) extras ((Target.parts square xs).piece o) =
        (do let r ← fresh "_ref"; pure (r, extras ++ (Target.parts square xs).rest o r)) := by
      unfold placeTarget
      rw [hparts]
      rfl
    rw [if_neg (by simp [Target.piece, isIdentifier, Form.piece]), pure_bind, hplace, bind_assoc]
    refine gives_bind (gives_numbered "_ref") ?_
    rintro l ⟨i, hl⟩
    refine gives_bind_eq (gives_pure rfl) ?_
    exact hf ⟨.parts square xs, l, _, hl, i, rfl⟩ rfl

theorem gives_assignTargets (a : Unpacking) (ts : List Target) (chain : Piece) (extras : List Piece) :
    Gives o Unguarded ops (assignTargets (a.value o) (ts.map (Target.piece o)) chain extras) fun r =>
      ∃ es : List (Place o), es.map Place.target = ts ∧
        r.1 = es.foldl (fun c e => assignMore (a.value o) c e.left) chain ∧
        r.2 = extras ++ es.flatMap fun e => e.target.rest o e.left := by
  induction ts generalizing chain extras with
  | nil => exact gives_pure ⟨[], rfl, rfl, (List.append_nil _).symm⟩
  | cons t ts ih =>
    rw [List.map_cons, assignTargets_cons]
    refine gives_stands a t extras fun e he => (ih _ _).mono ?_
    rintro ⟨c, _⟩ ⟨es, rfl, rfl, rfl⟩
    exact ⟨e :: es, by rw [List.map_cons, he], rfl, by simp [he]⟩

/-- The statements of the assignment. -/
theorem gives_unpacking {store load : Tree} (hstore : IsUse store) (hload : IsUse load)
    (a : Unpacking) : Gives o Unguarded ops (visit (a.tree store load)) fun p =>
      ∃ es : List (Place o), es.map Place.target = a.targets.reverse ∧
        spliced p = statement (es.foldl (fun c e => assignMore (a.value o) c e.left) .absent) ::
          es.flatMap fun e => e.target.rest o e.left := by
  have hI := unguarded_stable
  have hvalue : Gives o Unguarded ops (visit (listTree a.square (a.items.map (Item.tree load)) load))
      (· = a.value o) := gives_listTree hI hload a.square a.items (fun i => i.isForm_piece)
    fun i _ => gives_item hI hload i
  refine gives_node hI rfl rfl (gives_fields (yields_each
    (fun t p (hp : p = t.piece o) => by rw [hp]; exact t.isForm_piece.spliced)
    fun t _ => gives_target hI hstore t) (gives_fields (yields_one (by cases a.square <;> rfl)
      (fun p (hp : p = _) => by rw [hp]; rfl) hvalue) gives_no_fields)) ?_
  rintro _ ⟨cs, _, rfl, hcs, _, _, rfl, ⟨_, rfl, rfl⟩, rfl⟩
  obtain rfl := eq_map_of_forall₂ hcs
  change Gives o Unguarded ops (assignRule _) _
  unfold assignRule
  rw [List.append_nil, List.getLast?_concat, List.dropLast_concat, ← List.map_reverse]
  refine gives_bind (gives_assignTargets a _ _ _) ?_
  rintro ⟨chain, extras⟩ ⟨es, hes, rfl, rfl⟩
  rw [List.nil_append]
  dsimp only
  split_ifs with hextras
  · exact gives_pure ⟨es, hes, by rw [List.isEmpty_iff.1 hextras]; rfl⟩
  · refine gives_pure ⟨es, hes, List.filter_eq_self.2 fun p hp => ?_⟩
    rcases List.mem_cons.1 hp with rfl | hp
    · rfl
    · obtain ⟨e, -, hp⟩ := List.mem_flatMap.1 hp
      exact e.target.present_of_mem_rest hp

end

/-! The run -/

section

variable {α : Type} {w : World α} {o : Options} {σ τ : Store α}

theorem Runs.append {ps qs : List Piece} {σ σ1 σ2 : Store α} {out : Outcome α}
    (h1 : Runs w (.all ps) σ .normal σ1) (h2 : Runs w (.all qs) σ1 out σ2) :
    Runs w (.all (ps ++ qs)) σ out σ2 := by
  induction ps generalizing σ with
  | nil =>
    cases h1
    exact h2
  | cons p ps ih =>
    cases h1 with
    | cons first rest => exact .cons first (ih rest)
    | stop first early => exact absurd rfl early

theorem evalAll_items (is : List Item) :
    evalAll w (is.map (Item.piece o)) σ = some (is.map (Item.value w o σ), σ) := by
  induction is with
  | nil => rfl
  | cons i is ih =>
    have hi : evalPiece w (i.piece o) σ = some (i.value w o σ, σ) := by cases i <;> rfl
    simp [evalAll, hi, ih]

/-- A chain of assignments writes from the inside out. -/
theorem eval_chain {value chain : Piece} {vs : List (Value α)} (es : List (Place o))
    (hchain : chain.isAbsent = false) (h : evalPiece w chain σ = some (.array vs, τ)) :
    evalPiece w (es.foldl (fun c e => assignMore value c e.left) chain) σ =
      some (.array vs, write σ vs τ (es.map fun e => (e.name, .whole))) := by
  induction es generalizing chain τ with
  | nil => exact h
  | cons e es ih =>
    refine ih rfl ?_
    beta_reduce
    rw [assignMore, hchain]
    exact eval_assign e.isName h {}

/-- The parts of an array are taken from where it is, if none of them is written there. -/
theorem runs_unpack {l : Piece} {r : String} (hl : identifier? l = some r) (us : List (Value α))
    {vs : List (Value α)} {ns : List String} (hns : ∀ n ∈ ns, n ≠ r) (hlen : ns.length = vs.length)
    (hτ : τ r = .array (us ++ vs)) :
    Runs w (.all (((ns.map word).zipIdx us.length).map fun e =>
      statement (assignTo "=" e.1 (Form.bracket l (leaf .number (toString e.2))).piece))) τ .normal
      ((ns.zip vs).foldl (fun τ e => Function.update τ e.1 e.2) τ) := by
  induction ns generalizing τ us vs with
  | nil => exact .nil
  | cons n ns ih =>
    cases vs with
    | nil => cases hlen
    | cons v vs =>
      have hindex : evalPiece w (leaf .number (toString us.length)) τ = some (.nat us.length, τ) := by
        rw [eval_numeral, numeral_toString]
        rfl
      have hpart : (τ r).at? (.nat us.length) = some v := by
        rw [hτ]
        simp [Value.at?]
      have hvalue : evalPiece w (Form.bracket l (leaf .number (toString us.length))).piece τ =
          some (v, τ) := eval_bracket (eval_identifier hl) hindex hpart {}
      refine .cons (.expression (eval_assign (x := n) rfl hvalue {})) ?_
      have hlen' : ns.length = vs.length := Nat.succ.inj hlen
      have hτ' : Function.update τ n v r = .array (us ++ [v] ++ vs) := by
        rw [Function.update_of_ne (Ne.symm (hns n (by simp))), hτ, List.append_assoc]
        rfl
      have hrest := ih (us ++ [v]) (fun m hm => hns m (by simp [hm])) hlen' hτ'
      rw [List.length_append] at hrest
      exact hrest

/-- No name that the assignment is about is one of the temporaries for lists. -/
def IsApart (o : Options) (a : Unpacking) : Prop :=
  ∀ x ∈ a.names, ∀ i, nameIn o x ≠ nameIn o (Scope.numbered "_ref" i)

theorem write_of_ne {vs : List (Value α)} {x : String} {ws : Writes α} (h : ∀ e ∈ ws, e.1 ≠ x) :
    write σ vs τ ws x = τ x := by
  induction ws generalizing τ with
  | nil => rfl
  | cons e ws ih =>
    refine (ih fun e he => h e (by simp [he])).trans ?_
    exact Function.update_of_ne (Ne.symm (h e (by simp))) _ _

variable {a : Unpacking} (hapart : IsApart o a)
include hapart

/-- The parts of the list are written to names of targets, which are no temporaries. -/
theorem ne_of_mem_shares {t : Target} (ht : t ∈ a.targets) {qs : List (Origin α)}
    {e : String × Origin α} (he : e ∈ t.shares o qs) (i : Nat) :
    e.1 ≠ nameIn o (Scope.numbered "_ref" i) := by
  cases t with
  | name x => cases he
  | parts square xs =>
    obtain ⟨x, hx, hxe⟩ := List.mem_map.1 (List.of_mem_zip he).1
    have hnames : x.text ∈ a.names :=
      List.mem_append_left _ (List.mem_flatMap.2 ⟨_, ht, List.mem_map_of_mem hx⟩)
    rw [← hxe]
    exact hapart _ hnames i

/-- What is left to do for a target writes its share, if its temporary holds the list. -/
theorem runs_place {e : Place o} (he : e.target ∈ a.targets)
    (hτ : ∀ i, e.name = nameIn o (Scope.numbered "_ref" i) →
      τ e.name = .array (a.items.map (Item.value w o σ))) :
    Runs w (.all (e.target.rest o e.left)) τ .normal
      (write σ (a.items.map (Item.value w o σ)) τ (e.target.shares o (a.origins w o))) := by
  obtain ⟨t, l, r, hl, hleft⟩ := e
  cases t with
  | name x => exact .nil
  | parts square xs =>
    obtain ⟨i, rfl⟩ := hleft
    have hns : ∀ n ∈ xs.map fun x => nameIn o x.text, n ≠ nameIn o (Scope.numbered "_ref" i) := by
      intro n hn
      obtain ⟨x, hx, rfl⟩ := List.mem_map.1 hn
      exact hapart _ (List.mem_append_left _ (List.mem_flatMap.2 ⟨_, he, List.mem_map_of_mem hx⟩)) i
    have hlen : (xs.map fun x => nameIn o x.text).length = (a.items.map (Item.value w o σ)).length := by
      rw [List.length_map, List.length_map]
      exact a.fits square xs he
    have hrun := runs_unpack (w := w) hl [] hns hlen (hτ i rfl)
    have hzip := foldl_zip_eq_write (σ := σ) (xs.map fun x => nameIn o x.text) (a.origins w o)
      (a.items.map (Item.value w o σ)) τ
    rw [a.values_origins] at hzip
    rw [hzip, List.map_map] at hrun
    exact hrun

/-- While the temporaries hold the list, the shares are written one after the other. -/
theorem runs_rest {es : List (Place o)} (hes : ∀ e ∈ es, e.target ∈ a.targets)
    (hτ : ∀ e ∈ es, ∀ i, e.name = nameIn o (Scope.numbered "_ref" i) →
      τ e.name = .array (a.items.map (Item.value w o σ))) :
    Runs w (.all (es.flatMap fun e => e.target.rest o e.left)) τ .normal
      (write σ (a.items.map (Item.value w o σ)) τ
        (es.flatMap fun e => e.target.shares o (a.origins w o))) := by
  induction es generalizing τ with
  | nil => exact .nil
  | cons e es ih =>
    rw [List.flatMap_cons, List.flatMap_cons, write, List.foldl_append]
    refine (runs_place hapart (hes e (by simp)) (hτ e (by simp))).append ?_
    refine ih (fun e' he' => hes e' (by simp [he'])) fun e' he' i hi => ?_
    refine (write_of_ne fun q hq => ?_).trans (hτ e' (by simp [he']) i hi)
    rw [hi]
    exact ne_of_mem_shares hapart (hes e (by simp)) hq i

/-- The statements of the assignment write all of the list to all places, and then the shares. -/
theorem runs_places {es : List (Place o)} (hne : es ≠ []) (hes : ∀ e ∈ es, e.target ∈ a.targets)
    (σ : Store α) :
    Runs w (.all (statement (es.foldl (fun c e => assignMore (a.value o) c e.left) .absent) ::
      es.flatMap fun e => e.target.rest o e.left)) σ .normal
      (write σ (a.items.map (Item.value w o σ)) σ (es.map (fun e => (e.name, .whole)) ++
        es.flatMap fun e => e.target.shares o (a.origins w o))) := by
  have hvalue : evalPiece w (a.value o) σ = some (.array (a.items.map (Item.value w o σ)), σ) :=
    eval_array (evalAll_items a.items) {}
  have hchain : evalPiece w (es.foldl (fun c e => assignMore (a.value o) c e.left) .absent) σ =
      some (.array (a.items.map (Item.value w o σ)), write σ (a.items.map (Item.value w o σ)) σ
        (es.map fun e => (e.name, .whole))) := by
    obtain ⟨e, es, rfl⟩ := List.exists_cons_of_ne_nil hne
    exact eval_chain es rfl (eval_assign e.isName hvalue {})
  rw [write, List.foldl_append]
  refine .cons (.expression hchain) (runs_rest hapart hes fun e he i _ => ?_)
  have hnames : es.map (fun e => (e.name, Origin.whole (α := α))) =
      (es.map Place.name).map fun n => (n, .whole) := by
    rw [List.map_map]
    rfl
  refine (write_apply (q := .start e.name) rfl _).trans ?_
  rw [hnames, leftWith_whole (List.mem_map_of_mem he)]
  rfl

omit hapart in
/-- A name that is no temporary is left with what the targets alone leave it with. -/
theorem leftWith_places {es : List (Place o)} {x : String}
    (hx : ∀ i, x ≠ nameIn o (Scope.numbered "_ref" i)) (q : Origin α) :
    leftWith x q (es.map fun e => (e.name, .whole)) =
      leftWith x q ((es.map Place.target).flatMap (Target.wholes o)) := by
  induction es generalizing q with
  | nil => rfl
  | cons e es ih =>
    rw [List.map_cons, List.map_cons, List.flatMap_cons, leftWith_append]
    refine (ih _).trans ?_
    congr 1
    obtain ⟨t, l, r, hl, hleft⟩ := e
    cases t with
    | name y =>
      obtain rfl := hleft
      rfl
    | parts square xs =>
      obtain ⟨i, rfl⟩ := hleft
      exact if_neg (Ne.symm (hx i))

end

/-- Executed from any store, the statements of the assignment end. They leave every name of the
assignment with the value that binding the targets from left to right gives it, whatever the store,
exactly if the two orders of writing leave it with the same part. -/
theorem unpacked_iff {α : Type} (w : World α) {o : Options} {store load : Tree} (hstore : IsUse store)
    (hload : IsUse load) {s : State} (hs : Ready s) (hfree : Unguarded s) {a : Unpacking}
    (hapart : IsApart o a) :
    ∃ p s', run (visit (a.tree store load)) o s = (.ok p, s') ∧
      (∀ σ, ∃ σ', Runs w (.all (spliced p)) σ .normal σ') ∧
      ((∀ σ out σ', Runs w (.all (spliced p)) σ out σ' →
          ∀ x ∈ a.names, σ' (nameIn o x) = a.bound w o σ (nameIn o x)) ↔
        ∀ x ∈ a.names, leftWith (nameIn o x) (.start (nameIn o x)) (a.scriptWrites w o) =
          leftWith (nameIn o x) (.start (nameIn o x)) (a.sourceWrites w o)) := by
  obtain ⟨p, s', hrun, -, es, hes, hp⟩ := gives_unpacking hstore hload a s ⟨hs, hfree, rfl⟩ (o := o)
  have hne : es ≠ [] := by
    rintro rfl
    exact a.nonempty (List.reverse_eq_nil_iff.1 hes.symm)
  have hmem : ∀ e ∈ es, e.target ∈ a.targets := fun e he =>
    List.mem_reverse.1 (hes ▸ List.mem_map_of_mem he)
  have hruns (σ : Store α) := runs_places (w := w) hapart hne hmem σ
  rw [← hp] at hruns
  -- The value of a name in the end, by the order of the script.
  have hend (σ : Store α) (x : String) (hx : x ∈ a.names) : write σ (a.items.map (Item.value w o σ)) σ
      (es.map (fun e => (e.name, .whole)) ++ es.flatMap fun e => e.target.shares o (a.origins w o))
        (nameIn o x) = (leftWith (nameIn o x) (.start (nameIn o x)) (a.scriptWrites w o)).value σ
          (a.items.map (Item.value w o σ)) := by
    refine (write_apply (q := .start (nameIn o x)) rfl _).trans ?_
    rw [leftWith_append, leftWith_places (hapart x hx), Unpacking.scriptWrites, leftWith_append, ← hes]
    simp only [List.flatMap_map]
  refine ⟨p, s', hrun, fun σ => ⟨_, hruns σ⟩, fun h x hx => ?_, fun h σ out σ' hr x hx => ?_⟩
  · by_contra hdiffer
    obtain ⟨σ, hσ⟩ := exists_value_ne hdiffer fun σ => a.items.map (Item.value w o σ)
    refine hσ ?_
    rw [← hend σ x hx, h σ _ _ (hruns σ) x hx, a.bound_apply]
  · obtain ⟨-, rfl⟩ := (hruns σ).det hr
    rw [hend σ x hx, h x hx, a.bound_apply]

/-- `x, y = y, x = 1, 2` -/
def crossed : Unpacking where
  targets := [.parts false [⟨"x", by decide⟩, ⟨"y", by decide⟩],
    .parts false [⟨"y", by decide⟩, ⟨"x", by decide⟩]]
  square := false
  items := [.number (.number "1") nofun, .number (.number "2") nofun]
  nonempty := List.cons_ne_nil _ _
  fits := by
    intro square xs h
    cases h with
    | head => rfl
    | tail _ h =>
      cases h with
      | head => rfl
      | tail _ h => cases h

theorem isApart_crossed : IsApart {} crossed := by
  intro x hx i h
  have hlist : x.toList = '_' :: ("ref_".toList ++ (toString i).toList) := by
    have hname : x = Scope.numbered "_ref" i := h
    rw [hname, Scope.numbered, String.toList_append, String.toList_append]
    rfl
  have hall : ∀ x ∈ crossed.names, x.toList.head? ≠ some '_' := by decide
  exact hall x hx (by rw [hlist]; rfl)

theorem crossed_not_unpacked : IsUse (.node (.use .store) []) ∧ IsUse (.node (.use .load) []) ∧
    Ready {} ∧ Unguarded {} ∧ IsApart {} crossed ∧
    ∃ p s', run (visit (crossed.tree (.node (.use .store) []) (.node (.use .load) []))) {} {} =
      (.ok p, s') ∧
      (∀ σ, ∃ σ', Runs bareWorld (.all (spliced p)) σ .normal σ') ∧
      ¬ ∀ σ out σ', Runs bareWorld (.all (spliced p)) σ out σ' →
        ∀ x ∈ crossed.names, σ' x = crossed.bound bareWorld {} σ x := by
  obtain ⟨p, s', hrun, hends, hiff⟩ := unpacked_iff bareWorld (o := {}) (.use .store) (.use .load)
    ready_start rfl isApart_crossed
  refine ⟨.use .store, .use .load, ready_start, rfl, isApart_crossed, p, s', hrun, hends, fun h => ?_⟩
  exact absurd (hiff.1 h "x" (by decide)) (by decide)

end Transpile.Running
