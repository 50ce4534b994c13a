import Transpile.Proofs.Classes.Flow

/-! Code that classes are made of: supported statements, statements that come to nothing, function
definitions without decorators and classes of such definitions, nested in any way. No statement but a
definition binds a name that comes out as that of constructors. Main statement: the walk over such code
follows its flow. -/

namespace Transpile.Walk

open Script Source

/-! Statements that come to nothing -/

/-- An imported name. One read from source text also has its place there. -/
structure Imported where
  name : String
  asName : Atom
  place : List Atom

def Imported.tree (i : Imported) : Tree :=
  .node .alias (.text i.name :: .atom i.asName :: i.place.map .atom)

def isSilentKind : Kind → Bool
  | .passStmt | .importStmt | .importFrom | .globalStmt | .nonlocalStmt => true
  | _ => false

def isSilent (t : Tree) : Bool := t.kind?.any isSilentKind

/-- The import of a special form is left out: it changes what the names of the program stand for. -/
inductive IsSilent : Tree → Prop where
  | pass : IsSilent (.node .passStmt [])
  | imports {is : List Imported} (h : ∀ i ∈ is, i.name ∉ ["_global", "_new"]) :
      IsSilent (.node .importStmt [.list (is.map Imported.tree)])
  | importsFrom {module level : Atom} {is : List Imported} :
      IsSilent (.node .importFrom [.atom module, .list (is.map Imported.tree), .atom level])
  | declares {k : Kind} {ns : List Atom} (hk : k = .globalStmt ∨ k = .nonlocalStmt) :
      IsSilent (.node k [.list (ns.map .atom)])

theorem IsSilent.isNode {t : Tree} (h : IsSilent t) : t.isNode = true := by
  cases h <;> rfl

theorem IsSilent.isSilent {t : Tree} (h : IsSilent t) : isSilent t = true := by
  cases h with
  | declares hk => rcases hk with rfl | rfl <;> rfl
  | _ => rfl

section

variable {o : Options} {I : State → Prop} {ops : Stack Kind}

theorem gives_forM {α : Type} {f : α → Walker PUnit} {as : List α}
    (h : ∀ a ∈ as, Gives o I ops (f a) fun _ => True) : Gives o I ops (as.forM f) fun _ => True := by
  induction as with
  | nil => exact gives_pure trivial
  | cons a as ih => exact gives_bind (h a (by simp)) fun _ _ => ih fun b hb => h b (by simp [hb])

theorem yields_atoms (as : List Atom) : Yields o I ops (.list (as.map .atom)) (· = []) := by
  change Gives o I ops (gather _ (walkAll (as.map .atom))) _
  induction as with
  | nil => exact gives_pure rfl
  | cons a as ih => exact gives_bind_eq (gives_pure rfl) (gives_bind_eq ih (gives_pure rfl))

variable (hI : Stable I)
include hI

theorem gives_imported (i : Imported) :
    i.tree.isNode = true ∧ Gives o I ops (visit i.tree) fun p =>
      ∃ es, p = .record es ∧ es.lookup "name" = some (.text i.name) := by
  refine ⟨rfl, gives_node hI rfl rfl (gives_fields (yields_atom _) (gives_fields (yields_atom _)
    (gives_inert (List.forall_mem_map.2 fun a _ => .atom a)))) fun cs _ => ?_⟩
  change Gives o I ops (aliasRule _ _ _) _
  unfold aliasRule
  split <;> exact gives_pure ⟨_, rfl, rfl⟩

theorem yields_imported (is : List Imported) : Yields o I ops (.list (is.map Imported.tree)) fun cs =>
    List.Forall₂ (fun i p => ∃ es, p = .record es ∧ es.lookup "name" = some (.text i.name)) is cs := by
  refine yields_each ?_ fun i _ => gives_imported hI i
  rintro i _ ⟨es, rfl, -⟩
  rfl

omit hI in
theorem gives_importOne {es : List (String × Atom)} {n : String} (hn : n ∉ ["_global", "_new"])
    (h : es.lookup "name" = some (.text n)) : Gives o I ops (importOne (.record es)) fun _ => True := by
  simp only [List.mem_cons, List.not_mem_nil, or_false, not_or] at hn
  have hentry : Gives o I ops (entry es "name") (· = .text n) := by
    rw [entry, h]
    exact gives_pure rfl
  refine gives_bind_eq hentry ?_
  split
  · next heq => exact absurd (by simpa using heq) hn.1
  · next heq => exact absurd (by simpa using heq) hn.2
  · exact gives_pure trivial

theorem gives_silent {t : Tree} (h : IsSilent t) : Gives o I ops (visit t) (· = .absent) := by
  cases h with
  | pass => exact gives_node hI rfl rfl gives_no_fields fun _ _ => gives_pure rfl
  | @imports is h =>
    refine gives_node hI rfl rfl (gives_fields (yields_imported hI is) gives_no_fields) ?_
    rintro _ ⟨cs, _, rfl, hcs, rfl⟩
    rw [List.append_nil]
    refine gives_bind (gives_forM fun c hc => ?_) fun _ _ => gives_pure rfl
    obtain ⟨i, hi, es, rfl, hname⟩ := forall₂_right hcs hc
    exact gives_importOne (h i hi) hname
  | importsFrom =>
    exact gives_node hI rfl rfl (gives_fields (yields_atom _) (gives_fields (yields_imported hI _)
      (gives_fields (yields_atom _) gives_no_fields))) fun _ _ => gives_pure rfl
  | @declares _ ns hk =>
    have hnames : Yields o I ops (.list (ns.map .atom)) (· = []) := yields_atoms ns
    rcases hk with rfl | rfl
    · exact gives_node hI rfl rfl (gives_fields hnames gives_no_fields) fun _ _ => gives_pure rfl
    · exact gives_node hI rfl rfl (gives_fields hnames gives_no_fields) fun _ _ => gives_pure rfl

end

/-! The code -/

/-- A supported expression without comprehensions. -/
structure IsPure (t : Tree) : Prop where
  expr : IsExpr t
  plain : isExpression t = true

/-- What stands beside the body of a class. -/
inductive IsSide : Tree → Prop where
  | expr {t : Tree} (h : IsPure t) : IsSide t
  | keyword {n : Atom} {v : Tree} (hv : IsPure v) : IsSide (.node .keyword [.atom n, v])

/-- No name in the target comes out as that of constructors. -/
def Spares (o : Options) (t : Tree) : Prop := ∀ n ∈ spelled t, nameIn o n ≠ "__init__"

/-- The else part of a condition is looked for after as many pieces as the body has statements, and the
body of a loop is the first piece after its source, so silent statements must not stand everywhere. -/
inductive IsCode (o : Options) : Tree → Prop where
  | plain {k : Kind} {fs : List Tree} (h : IsStmt (.node k fs)) (hk : isPlainKind k = true)
      (hn : Spares o (boundField k fs)) : IsCode o (.node k fs)
  | silent {t : Tree} (h : IsSilent t) : IsCode o t
  | ifs {test : Tree} {body orelse : List Tree} (ht : IsExpr test) (hb : ∀ s ∈ body, IsCode o s)
      (he : ∀ s ∈ orelse, IsCode o s)
      (hone : orelse.length = 1 → ∀ s ∈ body ++ orelse, isSilent s = false) :
      IsCode o (.node .ifStmt [test, .list body, .list orelse])
  | whiles {test : Tree} {body orelse : List Tree} (ht : IsExpr test) (hb : ∀ s ∈ body, IsCode o s)
      (he : ∀ s ∈ orelse, IsCode o s) : IsCode o (.node .whileStmt [test, .list body, .list orelse])
  | fors {item source : Tree} {body orelse : List Tree} (hi : IsNamed item) (hn : Spares o item)
      (hs : IsExpr source) (hne : ∃ s ∈ body ++ orelse, isSilent s = false)
      (hb : ∀ s ∈ body, IsCode o s) (he : ∀ s ∈ orelse, IsCode o s) :
      IsCode o (.node .forStmt [item, source, .list body, .list orelse])
  | tries {body orelse final : List Tree} {hs : List Handler} (hb : ∀ s ∈ body, IsCode o s)
      (ht : ∀ h ∈ hs, ∀ t ∈ h.type, IsExpr t) (hh : ∀ h ∈ hs, ∀ s ∈ h.body, IsCode o s)
      (he : ∀ s ∈ orelse, IsCode o s) (hf : ∀ s ∈ final, IsCode o s) :
      IsCode o (.node .tryStmt [.list body, .list (hs.map Handler.tree), .list orelse, .list final])
  | function {n : String} {ps returns : Tree} {body : List Tree} (hp : IsParams ps)
      (hb : ∀ s ∈ body, IsCode o s) (hr : Inert returns) :
      IsCode o (.node .functionDef [.text n, ps, .list body, .list [], returns])
  | ofMethods {name : String} {bases keywords decorators : List Tree} {ms : List Method}
      (hside : ∀ t ∈ bases ++ (keywords ++ decorators), IsSide t) (hm : ∀ m ∈ ms, IsCode o m.tree) :
      IsCode o (.node .classDef (classFields name bases keywords (ms.map Method.tree) decorators))

theorem IsCode.isNode {o : Options} {t : Tree} (h : IsCode o t) : t.isNode = true := by
  cases h with
  | silent h => exact h.isNode
  | _ => rfl

/-! Its fields -/

theorem isExpression_list {ts : List Tree} :
    isExpression (.list ts) = true ↔ ∀ t ∈ ts, isExpression t = true := by
  change areExpressions ts = true ↔ _
  induction ts with
  | nil => simp [areExpressions]
  | cons t ts ih => simp [areExpressions, ih]

theorem IsNamed.isTarget {t : Tree} (h : IsNamed t) : isTarget t = true := by
  obtain ⟨-, -⟩ := h
  rfl

theorem IsPlace.isTarget {t : Tree} (h : IsPlace t) : isTarget t = true := by
  obtain ⟨-, hk⟩ := h
  cases t with
  | node k fs =>
    simp only [Tree.kind?, List.mem_cons, Option.some.injEq, List.not_mem_nil, or_false] at hk
    rcases hk with rfl | rfl | rfl <;> rfl
  | _ => simp [Tree.kind?] at hk

theorem IsTarget.isTarget {t : Tree} (h : IsTarget t) : isTarget t = true := by
  cases h with
  | place h => exact h.isTarget
  | @sequence k ts ctx hk ht hc =>
    have hctx : Walk.isTarget ctx = true := by
      cases hc <;> rfl
    have hall := areTargets_iff.2 fun t hm => (ht t hm).isTarget
    rcases hk with rfl | rfl <;> simp [Walk.isTarget, areTargets, hall, hctx]

theorem isTarget_boundField {k : Kind} {fs : List Tree} (h : IsStmt (.node k fs))
    (hk : isPlainKind k = true) : isTarget (boundField k fs) = true := by
  cases h with
  | assign ht hv => exact areTargets_iff.2 fun t hm => (ht t hm).isTarget
  | augAssign ht hop hv => exact ht.isTarget
  | delete hn ht => exact areTargets_iff.2 fun t hm => (ht t hm).isTarget
  | expr | returns | leavesLoop | nextRound | raise => rfl
  | _ => cases hk

section

variable {o : Options}

@[simp]
theorem passes_op (op : Op) : Passes o (.node (.op op) []) := passes_node rfl (by simp)

theorem IsUse.passes {t : Tree} (h : IsUse t) : Passes o t := by
  cases h with
  | missing => exact passes_missing
  | use u => exact passes_node rfl (by simp)

theorem Inert.passes {t : Tree} (h : Inert t) : Passes o t := by
  cases h with
  | missing => exact passes_missing
  | atom a => exact passes_atom a
  | empty => exact passes_list (by simp)

theorem IsKey.passes {t : Tree} (h : IsKey t) : Passes o t := by
  cases h with
  | name hc => exact passes_node rfl (by simp [hc.passes])
  | number => exact passes_node rfl (by simp)
  | string => exact passes_node rfl (by simp)

theorem IsNamed.passes {t : Tree} (h : IsNamed t) : Passes o t := by
  obtain ⟨-, hc⟩ := h
  exact (IsKey.name hc).passes

theorem IsParams.passes {t : Tree} (h : IsParams t) : Passes o t := by
  have hlist {t : Tree} (h : IsParamList t) : Passes o t := by
    cases h with
    | missing => exact passes_missing
    | params h =>
      refine passes_list fun p hp => ?_
      obtain ⟨hnote⟩ := h p hp
      exact passes_node rfl (by simp [hnote.passes])
  obtain ⟨ho, hp, hr⟩ := h
  refine passes_node rfl (List.forall_mem_cons.2 ⟨hlist ho, List.forall_mem_cons.2 ⟨hlist hp, ?_⟩⟩)
  exact fun t ht => (hr t ht).passes

theorem passes_optional {v : Option Tree} (h : ∀ t ∈ v, Passes o t) : Passes o (optional v) := by
  cases v with
  | none => exact passes_atom _
  | some t => exact h t rfl

theorem IsExpr.passes {t : Tree} (h : IsExpr t) : Passes o t := by
  induction h with
  | key hk => exact hk.passes
  | unary hop hx ih => exact passes_node rfl (by simp [ih])
  | binary hop hl hr ihl ihr => exact passes_node rfl (by simp [ihl, ihr])
  | bool hop hn hv ih => exact passes_node rfl (by simp [passes_list ih])
  | @compare op l r hop hl hr ihl ihr =>
    have hop : Passes o (.list [.node (.op op) []]) := passes_list (by simp)
    exact passes_node rfl (by simp [ihl, hop, passes_list (List.forall_mem_singleton.2 ihr)])
  | call hf ha ihf iha =>
    exact passes_node rfl (by simp [ihf, passes_list iha, Inert.empty.passes])
  | attr hx hc ih => exact passes_node rfl (by simp [ih, hc.passes])
  | index hx hi hc ihx ihi =>
    have hindex : Passes o (.node .index [_]) := passes_node rfl (List.forall_mem_singleton.2 ihi)
    exact passes_node rfl (by simp [ihx, hindex, hc.passes])
  | @slice x ctx low high hx hl hh hc ihx ihl ihh =>
    have hslice : Passes o (.node .slice [optional low, optional high, .none]) :=
      passes_node rfl (by simp [passes_optional ihl, passes_optional ihh])
    exact passes_node rfl (by simp [ihx, hslice, hc.passes])
  | sequence hk ht hc ih =>
    rcases hk with rfl | rfl <;> exact passes_node rfl (by simp [passes_list ih, hc.passes])
  | dict hk hv hn ih =>
    exact passes_node rfl (by simp [passes_list ih, passes_list fun k hm => (hk k hm).passes])
  | lambda hp hb ih => exact passes_node rfl (by simp [hp.passes, ih])
  | @listComp x target source sync ifs hx ht hs hi ha ihx iht ihs ihi =>
    have hgen : Passes o (.node .comprehension [target, source, .list ifs, sync]) :=
      passes_node rfl (by simp [iht, ihs, passes_list ihi, ha.passes])
    exact passes_node rfl (by simp [ihx, passes_list (List.forall_mem_singleton.2 hgen)])

theorem passes_plain {k : Kind} {fs : List Tree} (h : IsStmt (.node k fs))
    (hk : isPlainKind k = true) : Passes o (.node k fs) := by
  cases h with
  | expr hx => exact passes_node rfl (by simp [hx.passes])
  | assign ht hv =>
    exact passes_node rfl (by simp [passes_list fun t hm => (ht t hm).expr.passes, hv.passes])
  | augAssign ht hop hv => exact passes_node rfl (by simp [ht.expr.passes, hv.passes])
  | returns hv => exact passes_node rfl (by simp [passes_optional fun t ht => (hv t ht).passes])
  | leavesLoop => exact passes_node rfl (by simp)
  | nextRound => exact passes_node rfl (by simp)
  | raise hx hc =>
    exact passes_node rfl (by simp [hx.passes, passes_optional fun t ht => (hc t ht).passes])
  | delete hn ht => exact passes_node rfl (by simp [passes_list fun t hm => (ht t hm).passes])
  | _ => cases hk

theorem IsSilent.passes {t : Tree} (h : IsSilent t) : Passes o t := by
  have hnames (is : List Imported) : Passes o (.list (is.map Imported.tree)) :=
    passes_list (List.forall_mem_map.2 fun i _ => passes_node rfl (by simp))
  cases h with
  | pass => exact passes_node rfl (by simp)
  | imports h => exact passes_node rfl (by simp [hnames])
  | importsFrom => exact passes_node rfl (by simp [hnames])
  | @declares _ ns hk =>
    have hatoms : Passes o (.list (ns.map .atom)) := passes_list (by simp)
    rcases hk with rfl | rfl <;> exact passes_node rfl (by simp [hatoms])

end

section

variable {o : Options} {ops : Stack Kind} {bs : List Bool} {body orelse final : List Tree}

theorem flows_expr {t : Tree} (h : IsExpr t) :
    Flows o ops t fun cs => ∃ p, Expressed p ∧ cs = [p] :=
  flows_passing h.passes fun bs => yields_expr (at_roomy bs) h

theorem flows_optional {v : Option Tree} (h : ∀ t ∈ v, IsExpr t) :
    Flows o ops (optional v) fun cs => ∀ c ∈ cs, Printable c := by
  refine flows_passing (passes_optional fun t ht => (h t ht).passes) fun bs => ?_
  exact Gives.mono (yields_optionalExpr (at_roomy bs) h) fun cs hcs c hc => (hcs.2 c hc).printable

/-- Targets can be assigned to without binding the name of constructors. -/
theorem yields_assignable {t : Tree} (ht : isTarget t = true) (hn : Spares o t)
    (h : Yields o (At bs) ops t fun cs => ∀ c ∈ cs, Expressed c) :
    Yields o (At bs) ops t fun cs => ∀ c ∈ cs, ∀ bs, Assignable o (At bs) ops c := by
  intro s hs
  obtain ⟨cs, s', hrun, hs', hcs⟩ := h s hs
  refine ⟨cs, s', hrun, hs', fun c hc bs => ⟨hcs c hc, fun hident => ?_⟩⟩
  obtain ⟨rs, hrs, rfl⟩ := recorded_of_results hs.ready hrun
  obtain ⟨n, m, rfl⟩ := (hcs c hc).ident hident
  refine gives_bind_at ⟨n, m, rfl⟩ fun hname => ?_
  obtain ⟨k, hk, rfl⟩ := names_recorded ht hrs hc .ident
  exact hn k hk (Option.some.inj hname)

/-! What code comes to -/

/-- Only silent statements come to nothing, and a function can be taken out of its definition. -/
structure Coded (t : Tree) (p : Piece) : Prop where
  printable : ∀ q ∈ spliced p, Printable q
  nonempty : isSilent t = false → spliced p ≠ []
  defined : t.kind? = some .functionDef → Defined p

theorem coded_of_stated {t : Tree} (ht : t.kind? ≠ some .functionDef) {p : Piece} (h : Stated p) :
    Coded t p :=
  ⟨h.printable, fun _ => h.nonempty, fun hk => absurd hk ht⟩

theorem coded_absent {t : Tree} (h : IsSilent t) : Coded t .absent := by
  refine ⟨by simp [spliced], fun hloud => ?_, fun hk => ?_⟩
  · rw [h.isSilent] at hloud
    cases hloud
  · have hsilent := h.isSilent
    rw [isSilent, hk] at hsilent
    cases hsilent

/-- The results of the statements of a block: all can be rendered, and they are no fewer than the
statements that are not silent. -/
structure Filled (ts : List Tree) (cs : List Piece) : Prop where
  printable : ∀ c ∈ cs, Printable c
  length : ts.countP (fun t => !isSilent t) ≤ cs.length

theorem filled_flatMap {ts : List Tree} {ps : List Piece} (h : List.Forall₂ Coded ts ps) :
    Filled ts (ps.flatMap spliced) := by
  induction h with
  | nil => exact ⟨by simp, Nat.le_refl _⟩
  | @cons t p ts ps hp _ ih =>
    rw [List.flatMap_cons]
    refine ⟨fun c hc => (List.mem_append.1 hc).elim (hp.printable c) (ih.printable c), ?_⟩
    have hlen := ih.length
    rw [List.countP_cons, List.length_append]
    split_ifs with hloud
    · have hpos := List.length_pos_iff.2 (hp.nonempty (by simpa using hloud))
      omega
    · omega

theorem Filled.append {ts us : List Tree} {cs ds : List Piece} (h : Filled ts cs) (h' : Filled us ds) :
    Filled (ts ++ us) (cs ++ ds) := by
  refine ⟨fun c hc => (List.mem_append.1 hc).elim (h.printable c) (h'.printable c), ?_⟩
  rw [List.countP_append, List.length_append]
  exact Nat.add_le_add h.length h'.length

theorem Filled.length_le {ts : List Tree} {cs : List Piece} (h : Filled ts cs)
    (hloud : ∀ t ∈ ts, isSilent t = false) : ts.length ≤ cs.length := by
  have hall : ts.countP (fun t => !isSilent t) = ts.length :=
    List.countP_eq_length.2 fun t ht => by rw [hloud t ht]; rfl
  exact hall ▸ h.length

theorem Filled.ne_nil {ts : List Tree} {cs : List Piece} (h : Filled ts cs)
    (hloud : ∃ t ∈ ts, isSilent t = false) : cs ≠ [] := by
  obtain ⟨t, ht, hloud⟩ := hloud
  have hpos : 0 < ts.countP fun t => !isSilent t := List.countP_pos_iff.2 ⟨t, ht, by rw [hloud]; rfl⟩
  exact List.length_pos_iff.1 (Nat.lt_of_lt_of_le hpos h.length)

/-- Walking the statements follows their flow. -/
def Walked (o : Options) (ops : Stack Kind) (ts : List Tree) : Prop :=
  ∀ t ∈ ts, t.isNode = true ∧ ∀ bs, Follows o ops bs (flow o t bs) (visit t) (Coded t)

theorem flows_block {ts : List Tree} (h : Walked o ops ts) : Flows o ops (.list ts) (Filled ts) := by
  refine fun bs => (flows_list h bs).mono ?_
  rintro _ ⟨ps, hps, rfl⟩
  exact filled_flatMap hps

/-! Statements -/

/-- Statements that open no scope and define no class. -/
def isOrdinary (k : Kind) : Bool :=
  isSimple k && !opensScope k && !opensOperator k && !isDefinition k

theorem follows_statement {k : Kind} (hk : isOrdinary k = true) {fs : List Tree}
    {P : List Piece → Prop} {Q : Piece → Prop} (hfields : FlowsAll o ops fs P)
    (hrule : ∀ bs cs, P cs → Gives o (At bs) ops (fieldRule k fs cs) Q) (bs : List Bool) :
    Follows o ops bs (flow o (.node k fs) bs) (visit (.node k fs)) Q := by
  simp only [isOrdinary, Bool.and_eq_true, Bool.not_eq_true'] at hk
  obtain ⟨⟨⟨hsimple, hopens⟩, hoperator⟩, hdefinition⟩ := hk
  have hops : opened k ops = ops := by
    rw [opened, hoperator]
    rfl
  have hbs : entered k bs = bs := by
    rw [entered, hopens]
    rfl
  have hvisit : Follows o ops bs ((flowAll o fs bs).bind some) (visit (.node k fs)) Q := by
    refine follows_visit hsimple ?_ fun bs' cs _ hcs => follows_of_gives (hrule bs' cs hcs)
    rw [hops, hbs]
    exact hfields bs
  rw [flow_node hdefinition]
  rwa [Option.bind_fun_some] at hvisit

theorem follows_plain {k : Kind} {fs : List Tree} (h : IsStmt (.node k fs))
    (hk : isPlainKind k = true) (hn : Spares o (boundField k fs)) :
    Follows o ops bs (flow o (.node k fs) bs) (visit (.node k fs)) Stated := by
  rw [passes_plain h hk]
  refine follows_of_gives (gives_plain (at_roomy bs) h hk ?_)
  exact Gives.mono (yields_assignable (isTarget_boundField h hk) hn
    (yields_boundField (at_roomy bs) h hk)) fun _ hcs c hc => hcs c hc bs

theorem follows_silent {t : Tree} (h : IsSilent t) :
    Follows o ops bs (flow o t bs) (visit t) (Coded t) := by
  rw [h.passes bs]
  refine follows_of_gives (Gives.mono (gives_silent (at_stable bs) h) ?_)
  rintro _ rfl
  exact coded_absent h

section

variable (hb : Walked o ops body)
include hb

theorem follows_if {test : Tree} (ht : IsExpr test) (he : Walked o ops orelse)
    (hone : orelse.length = 1 → ∀ s ∈ body ++ orelse, isSilent s = false) :
    Follows o ops bs (flow o (.node .ifStmt [test, .list body, .list orelse]) bs)
      (visit (.node .ifStmt [test, .list body, .list orelse])) Stated := by
  refine follows_statement rfl (flows_fields (flows_expr ht) (flows_fields (flows_block hb)
    (flows_fields (flows_block he) flows_no_fields))) ?_ _
  rintro bs _ ⟨_, _, rfl, ⟨p, hp, rfl⟩, cs, _, rfl, hcs, es, _, rfl, hes, rfl⟩
  rw [List.append_nil]
  have hfilled := hcs.append hes
  refine gives_ifRule hp.printable hfilled.printable fun hlen => ?_
  have hall := hfilled.length_le (hone hlen)
  simp only [List.length_append] at hall ⊢
  omega

theorem follows_while {test : Tree} (ht : IsExpr test) (he : Walked o ops orelse) :
    Follows o ops bs (flow o (.node .whileStmt [test, .list body, .list orelse]) bs)
      (visit (.node .whileStmt [test, .list body, .list orelse])) Stated := by
  refine follows_statement rfl (flows_fields (flows_expr ht) (flows_fields (flows_block hb)
    (flows_fields (flows_block he) flows_no_fields))) ?_ _
  rintro bs _ ⟨_, _, rfl, ⟨p, hp, rfl⟩, cs, _, rfl, hcs, es, _, rfl, hes, rfl⟩
  rw [List.append_nil]
  exact gives_whileRule ((at_roomy bs).gives_fresh _ _) hp.printable body orelse
    (hcs.append hes).printable

theorem follows_for {item source : Tree} (hi : IsNamed item) (hn : Spares o item)
    (hs : IsExpr source) (hne : ∃ s ∈ body ++ orelse, isSilent s = false) (he : Walked o ops orelse) :
    Follows o ops bs (flow o (.node .forStmt [item, source, .list body, .list orelse]) bs)
      (visit (.node .forStmt [item, source, .list body, .list orelse])) Stated := by
  have hitem : Flows o ops item fun cs =>
      (∃ p, IsIdent p ∧ cs = [p]) ∧ ∀ c ∈ cs, ∀ bs, Assignable o (At bs) ops c := by
    refine flows_passing hi.passes fun bs => ?_
    have hone : Yields o (At bs) ops item fun cs => ∃ p, IsIdent p ∧ cs = [p] :=
      have hnamed := gives_named (at_stable bs) hi
      yields_one hnamed.1 (fun _ hp => hp.isForm.spliced) hnamed.2
    refine Gives.and hone (yields_assignable hi.isTarget hn (Gives.mono hone ?_))
    rintro _ ⟨p, hp, rfl⟩
    exact List.forall_mem_singleton.2 hp.expressed
  refine follows_statement rfl (flows_fields hitem (flows_fields (flows_expr hs) (flows_fields
    (flows_block hb) (flows_fields (flows_block he) flows_no_fields)))) ?_ _
  rintro bs _ ⟨_, _, rfl, ⟨⟨p, hp, rfl⟩, hassign⟩, _, _, rfl, ⟨q, hq, rfl⟩, cs, _, rfl, hcs, es, _, rfl,
    hes, rfl⟩
  rw [List.append_nil]
  have hfilled := hcs.append hes
  refine gives_forRule (at_stable bs) ((at_roomy bs).gives_fresh _ _)
    ((hassign p (by simp) bs).binds ?_) hq.printable (hfilled.ne_nil hne) hfilled.printable
  obtain ⟨n, m, rfl⟩ := hp
  rfl

theorem follows_handler {type : Option Tree} (ht : ∀ t ∈ type, IsExpr t) (name : String) :
    Follows o ops bs (flow o (Handler.tree ⟨type, name, body⟩) bs)
      (visit (Handler.tree ⟨type, name, body⟩)) Stated := by
  refine follows_statement rfl (flows_fields (flows_optional ht) (flows_fields
    (flows_passing (passes_atom _) fun _ => yields_atom _)
    (flows_fields (flows_block hb) flows_no_fields))) ?_ _
  rintro bs _ ⟨ts, _, rfl, hts, _, _, rfl, rfl, cs, _, rfl, hcs, rfl⟩
  refine gives_handlerRule name fun c hc => ?_
  simp only [List.mem_append, List.not_mem_nil, or_false, false_or] at hc
  exact hc.elim (hts c) (hcs.printable c)

theorem follows_try {hs : List Handler}
    (hh : ∀ h ∈ hs, ∀ bs, Follows o ops bs (flow o h.tree bs) (visit h.tree) Stated)
    (he : Walked o ops orelse) (hf : Walked o ops final) :
    Follows o ops bs (flow o (.node .tryStmt [.list body, .list (hs.map Handler.tree), .list orelse,
      .list final]) bs) (visit (.node .tryStmt [.list body, .list (hs.map Handler.tree), .list orelse,
      .list final])) Stated := by
  have hhandlers : Walked o ops (hs.map Handler.tree) :=
    List.forall_mem_map.2 fun h hm => ⟨rfl, fun bs => (hh h hm bs).mono fun _ hp =>
      coded_of_stated (by simp [Tree.kind?, Handler.tree]) hp⟩
  refine follows_statement rfl (flows_fields (flows_block hb) (flows_fields (flows_block hhandlers)
    (flows_fields (flows_block he) (flows_fields (flows_block hf) flows_no_fields)))) ?_ _
  rintro bs _ ⟨cs, _, rfl, hcs, hs, _, rfl, hhs, es, _, rfl, hes, fs, _, rfl, hfs, rfl⟩
  rw [List.append_nil]
  exact gives_tryRule final (hcs.append (hhs.append (hes.append hfs))).printable

/-- The body of a function is walked in a map of its own. -/
theorem follows_function {n : String} {ps returns : Tree} (hp : IsParams ps) (hr : Inert returns) :
    Follows o ops bs (flow o (.node .functionDef [.text n, ps, .list body, .list [], returns]) bs)
      (visit (.node .functionDef [.text n, ps, .list body, .list [], returns])) Defined := by
  cases bs with
  | nil => exact follows_nil
  | cons own around =>
    have hinert {t : Tree} (h : Inert t) : Flows o ops t (· = []) :=
      flows_passing h.passes fun _ => yields_inert h
    refine follows_visit rfl (flows_fields (hinert (.atom _)) (flows_fields
      (flows_passing hp.passes fun bs => yields_params (at_stable bs) hp) (flows_fields (flows_block hb)
      (flows_fields (hinert .empty) (flows_fields (hinert hr) flows_no_fields)))) _) ?_
    rintro bs' _ hflow ⟨_, _, rfl, rfl, _, _, rfl, ⟨qs, hqs, rfl⟩, cs, _, rfl, hcs, _, _, rfl, rfl, _, _,
      rfl, rfl, rfl⟩
    obtain ⟨b, rfl⟩ := isInner_flowAll (fun t _ => isInner_flow o t) _ _ _ hflow
    constructor
    · rintro _ ⟨⟩
      exact leads_functionRule hqs (by simpa using hcs.printable) b (List.cons_ne_nil _ _)
    · intro hnone
      cases hnone

end

/-! Classes -/

/-- Where a class is put together, the flow takes out the name of its constructor. -/
theorem IsClass.dropInit {name : String} {es : List (Method × Piece)} {sc sc' : Scope} {m : Marks}
    {id p : Piece} (h : IsClass o name es sc sc' m id p) :
    dropInit (es.any (isMaker o)) sc.inits = some sc'.inits := by
  have hinner := h.inner
  rw [inits_eq, inits_eq, h.outer]
  split_ifs at hinner with hmaker
  · rw [hinner.1, hinner.2, has_erase_self, hmaker]
    rfl
  · rw [hinner, Bool.eq_false_iff.2 hmaker]
    rfl

theorem follows_classRule {name : String} {cs : List Piece} {es : List (Method × Piece)}
    (hcs : cs.filterMap method? = es.map fun e => (declaredWord (nameIn o e.1.name), e.2))
    (hprint : ∀ m ∈ cs.filterMap method?, Printable m.1 ∧ Printable m.2) :
    Follows o ops bs ((dropInit (es.any (isMaker o)) bs).bind
      fun bs => some (bindInit (name = "__init__") bs)) (classRule (.text name) cs) Stated := by
  constructor
  · intro bs' hflow s hs
    obtain ⟨bs1, hdrop, hbind⟩ := Option.bind_eq_some_iff.1 hflow
    rw [← hs.names.inits] at hdrop
    have hmakeable : Makeable cs s := by
      refine ⟨hs.names.orderly, fun hany => ?_⟩
      rw [hcs, List.any_map, isConstructor_comp] at hany
      rw [hany, inits_eq] at hdrop
      by_contra hout
      rw [Bool.not_eq_true] at hout
      rw [hout] at hdrop
      cases hdrop
    obtain ⟨p, s', hrun, hs', hp⟩ := leads_classRule name hprint s ⟨hs.ready, hmakeable, hs.operators⟩
    obtain ⟨sc, m, id, hclass, -, hmaps⟩ := isClass_of_run hcs hrun
    have hsc : bs1 = sc.inits := Option.some.inj (hdrop.symm.trans hclass.dropInit)
    refine ⟨p, s', hrun, ⟨hs'.ready, ⟨hs'.names, ?_⟩, hs'.operators⟩, hp⟩
    rw [inits_congr hmaps, inits_bound, ← hsc]
    exact Option.some.inj hbind
  · intro hflow s hs p s' hrun
    obtain ⟨sc, m, id, hclass, -, -⟩ := isClass_of_run hcs hrun
    have hdrop := hclass.dropInit
    rw [hs.names.inits] at hdrop
    rw [hdrop] at hflow
    cases hflow

theorem IsSide.isNode {t : Tree} (h : IsSide t) : t.isNode = true := by
  cases h with
  | expr h => exact h.expr.isNode
  | keyword hv => rfl

theorem IsSide.isExpression {t : Tree} (h : IsSide t) : isExpression t = true := by
  cases h with
  | expr h => exact h.plain
  | keyword hv => simp [Walk.isExpression, areExpressions, hv.plain, isExpressionPart]

theorem IsSide.passes {t : Tree} (h : IsSide t) : Passes o t := by
  cases h with
  | expr h => exact h.expr.passes
  | keyword hv => exact passes_node rfl (by simp [hv.expr.passes])

theorem IsSide.isOperand {t : Tree} (h : IsSide t) : isOperand t = true := by
  cases h with
  | keyword hv => rfl
  | expr h =>
    cases h.expr with
    | key hk => cases hk <;> rfl
    | sequence hk _ _ => rcases hk with rfl | rfl <;> rfl
    | _ => rfl

theorem gives_side {t : Tree} (h : IsSide t) : Gives o (At bs) ops (visit t) fun _ => True := by
  cases h with
  | expr h => exact Gives.mono (gives_expr (at_roomy bs) h.expr ops) fun _ _ => trivial
  | keyword hv =>
    exact gives_node (at_stable bs) rfl rfl (gives_fields (yields_atom _)
      (gives_fields (yields_expr (at_roomy bs) hv.expr) gives_no_fields)) fun _ _ => gives_pure trivial

theorem flows_sides {ts : List Tree} (h : ∀ t ∈ ts, IsSide t) :
    Flows o ops (.list ts) fun cs => cs.filterMap method? = [] := by
  have hlist : Flows o ops (.list ts) fun _ => True := by
    refine flows_passing (passes_list fun t ht => (h t ht).passes) fun bs => ?_
    rw [← List.map_id ts]
    exact Gives.mono (yields_list fun t ht => ⟨(h t ht).isNode, gives_side (h t ht)⟩) fun _ _ => trivial
  refine fun bs => (flows_recorded hlist bs).mono ?_
  rintro _ ⟨-, rs, hrs, rfl⟩
  exact methods_operands (fun t ht => (h t ht).isOperand) hrs

/-- The functions of a class, as its rule finds them among the results. -/
structure Gathered (o : Options) (ms : List Method) (cs : List Piece) : Prop where
  found : ∃ es : List (Method × Piece), es.map (·.1) = ms ∧
    cs.filterMap method? = es.map fun e => (declaredWord (nameIn o e.1.name), e.2)
  printable : ∀ m ∈ cs.filterMap method?, Printable m.1 ∧ Printable m.2

theorem flows_methods {ms : List Method}
    (h : ∀ m ∈ ms, ∀ bs, Follows o ops bs (flow o m.tree bs) (visit m.tree) Defined) :
    Flows o ops (.list (ms.map Method.tree)) (Gathered o ms) := by
  have hlist : Flows o ops (.list (ms.map Method.tree)) fun cs =>
      ∃ ps, List.Forall₂ (fun _ => Defined) (ms.map Method.tree) ps ∧ cs = ps.flatMap spliced :=
    flows_list (List.forall_mem_map.2 fun m hm => ⟨rfl, h m hm⟩)
  refine fun bs => (flows_recorded hlist bs).mono ?_
  rintro cs ⟨⟨ps, hps, hcs⟩, rs, hrs, hnodes⟩
  obtain ⟨es, hes, hdefines⟩ := exists_all_defines hrs
  refine ⟨⟨es, hes, by rw [hnodes]; exact methods_all_defined hdefines⟩, fun m hm => ?_⟩
  obtain ⟨q, hq, hmethod⟩ := List.mem_filterMap.1 hm
  rw [hcs] at hq
  obtain ⟨p, hp, hq⟩ := List.mem_flatMap.1 hq
  obtain ⟨t, -, hdefined⟩ := forall₂_right hps hp
  exact hdefined.methods q hq m hmethod

theorem hasMaker_classFields {name : String} {bases keywords decorators : List Tree}
    {es : List (Method × Piece)} :
    hasMaker o (classFields name bases keywords ((es.map (·.1)).map Method.tree) decorators) =
      es.any (isMaker o) := by
  change (((es.map (·.1)).map Method.tree).any (definesInit o)) = _
  rw [List.any_map, List.any_map]
  rfl

theorem follows_class {name : String} {bases keywords decorators : List Tree} {ms : List Method}
    (hside : ∀ t ∈ bases ++ (keywords ++ decorators), IsSide t)
    (hm : ∀ m ∈ ms, ∀ bs, Follows o ops bs (flow o m.tree bs) (visit m.tree) Defined) :
    Follows o ops bs
      (flow o (.node .classDef (classFields name bases keywords (ms.map Method.tree) decorators)) bs)
      (visit (.node .classDef (classFields name bases keywords (ms.map Method.tree) decorators)))
      Stated := by
  refine follows_visit rfl (flows_fields (flows_passing (passes_atom _) fun _ => yields_atom _) (flows_fields
    (flows_sides fun t ht => hside t (by simp [ht])) (flows_fields
    (flows_sides fun t ht => hside t (by simp [ht])) (flows_fields (flows_methods hm) (flows_fields
    (flows_sides fun t ht => hside t (by simp [ht])) flows_no_fields)))) _) ?_
  rintro bs' _ - ⟨_, _, rfl, rfl, cs1, _, rfl, h1, cs2, _, rfl, h2, cs3, _, rfl, h3, cs4, _, rfl, h4, rfl⟩
  have hcs : ([] ++ (cs1 ++ (cs2 ++ (cs3 ++ (cs4 ++ []))))).filterMap method? =
      cs3.filterMap method? := by
    simp [List.filterMap_append, h1, h2, h4]
  obtain ⟨⟨es, rfl, hes⟩, hprint⟩ := h3
  rw [hasMaker_classFields]
  refine follows_classRule (hcs.trans hes) fun m hm => hprint m ?_
  rwa [← hcs]

/-! All code -/

theorem walked_of_code {ts : List Tree} (h : ∀ t ∈ ts, IsCode o t)
    (ih : ∀ t ∈ ts, ∀ bs, Follows o ops bs (flow o t bs) (visit t) (Coded t)) : Walked o ops ts :=
  fun t ht => ⟨(h t ht).isNode, ih t ht⟩

/-- The walk over code succeeds where its flow does, and leaves the maps as the flow says. -/
theorem follows_code {t : Tree} (h : IsCode o t) (bs : List Bool) :
    Follows o ops bs (flow o t bs) (visit t) (Coded t) := by
  induction h generalizing bs with
  | plain h hk hn =>
    refine (follows_plain h hk hn).mono fun p hp => coded_of_stated ?_ hp
    rintro ⟨⟩
    cases hk
  | silent h => exact follows_silent h
  | ifs ht hb he hone ihb ihe =>
    exact (follows_if (walked_of_code hb ihb) ht (walked_of_code he ihe) hone).mono
      fun p hp => coded_of_stated (by simp [Tree.kind?]) hp
  | whiles ht hb he ihb ihe =>
    exact (follows_while (walked_of_code hb ihb) ht (walked_of_code he ihe)).mono
      fun p hp => coded_of_stated (by simp [Tree.kind?]) hp
  | fors hi hn hs hne hb he ihb ihe =>
    exact (follows_for (walked_of_code hb ihb) hi hn hs hne (walked_of_code he ihe)).mono
      fun p hp => coded_of_stated (by simp [Tree.kind?]) hp
  | tries hb ht hh he hf ihb ihh ihe ihf =>
    refine (follows_try (walked_of_code hb ihb) (fun h hm bs => ?_) (walked_of_code he ihe)
      (walked_of_code hf ihf)).mono fun p hp => coded_of_stated (by simp [Tree.kind?]) hp
    exact follows_handler (walked_of_code (hh h hm) (ihh h hm)) (ht h hm) h.name
  | function hp hb hr ihb =>
    refine (follows_function (walked_of_code hb ihb) hp hr).mono fun p h => ?_
    exact ⟨h.stated.printable, fun _ => h.stated.nonempty, fun _ => h⟩
  | ofMethods hside hm ihm =>
    refine (follows_class hside ?_).mono fun p hp => coded_of_stated (by simp [Tree.kind?]) hp
    exact fun m hmem bs => (ihm m hmem bs).mono fun _ h => h.defined rfl

end

end Transpile.Walk
