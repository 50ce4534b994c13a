import Transpile.Proofs.Temporaries.Apart

/-! Temporaries and the names of a program. A temporary never has the name of something that was
bound before it where it can be seen. It may have any other name of the body it is drawn in: that of
a parameter, of a name that is only read, or of one that is bound later. -/

namespace Transpile.Walk

open Script Source

/-! Names that occur -/

/-- The name that a node has by itself: a variable, a parameter, a function, a class, a caught error or
something imported. -/
def ownName? : Kind → List Tree → Option String
  | .name, .text n :: _ => some n
  | .arg, .text n :: _ => some n
  | .functionDef, .text n :: _ => some n
  | .classDef, .text n :: _ => some n
  | .exceptHandler, _ :: .text n :: _ => some n
  | .alias, _ :: .text n :: _ => some n
  | .alias, .text n :: _ => some n
  | _, _ => none

mutual

def namesIn : Tree → List String
  | .node k fs => (ownName? k fs).toList ++ namesInAll fs
  | .list ts => namesInAll ts
  | _ => []

def namesInAll : List Tree → List String
  | [] => []
  | t :: ts => namesIn t ++ namesInAll ts

end

/-- The names that occur in a function or a program, its own apart. -/
def namesWithin : Tree → List String
  | .node _ fs => namesInAll fs
  | _ => []

mutual

/-- The nodes with a scope of their own, each with all temporaries that are drawn in it. -/
def Entry.bodies : Entry → List (Tree × List Draw)
  | .drawn _ => []
  | .bound _ => []
  | .inside t es => (t, drawsOf es) :: bodiesOf es

def bodiesOf : List Entry → List (Tree × List Draw)
  | [] => []
  | e :: es => e.bodies ++ bodiesOf es

end

theorem Seen.named_within {o : Options} {ks : List String} {es : List Entry} (h : Seen o ks es) :
    ∀ b ∈ bodiesOf es, ∀ d ∈ b.2, nameOf? d.piece = some (nameIn o d.key) := by
  induction h with
  | nil => simp [bodiesOf]
  | drawn _ _ _ ih => exact ih
  | bound _ ih => exact ih
  | inside within _ ih ih' =>
    intro b hb
    rcases List.mem_append.1 hb with hb | hb
    · rcases List.mem_cons.1 hb with rfl | hb
      · exact within.named
      · exact ih b hb
    · exact ih' b hb

/-- The temporaries have names, none of which is in `ns` or was bound since, here or around. -/
inductive Clear : List String → List Entry → Prop where
  | nil {ns : List String} : Clear ns []
  | drawn {ns : List String} {d : Draw} {n : String} {es : List Entry}
      (name : nameOf? d.piece = some n) (new : n ∉ ns) (rest : Clear (n :: ns) es) :
      Clear ns (.drawn d :: es)
  | bound {ns : List String} {n : String} {es : List Entry} (rest : Clear (n :: ns) es) :
      Clear ns (.bound n :: es)
  | inside {ns : List String} {t : Tree} {inner es : List Entry} (within : Clear ns inner)
      (rest : Clear ns es) : Clear ns (.inside t inner :: es)

theorem nameIn_of_plain {o : Options} (ho : o.camelCase = false) (k : String) : nameIn o k = k := by
  rw [nameIn, if_neg (by simp [ho])]

theorem Seen.clear {o : Options} (ho : o.camelCase = false) {ks : List String} {es : List Entry}
    (h : Seen o ks es) : Clear ks es := by
  induction h with
  | nil => exact .nil
  | drawn name visible _ ih =>
    rw [nameIn_of_plain ho] at name
    exact .drawn name (key_notMem visible) ih
  | bound _ ih => exact .bound ih
  | inside _ _ ih ih' => exact .inside ih ih'

/-- A name is captured exactly if it has the least free index for the stem. -/
theorem captures_iff {o : Options} (ho : o.camelCase = false) {d : Draw}
    (hd : nameOf? d.piece = some (nameIn o d.key)) (n : String) : nameOf? d.piece = some n ↔
      ∃ i, n = Scope.numbered d.stem.text i ∧ IsLeastFree d.scope d.stem.text i := by
  rw [hd, nameIn_of_plain ho, Option.some.injEq]
  exact fresh_eq_iff

theorem not_isLeastFree_iff {sc : Scope} {stem : String} {i : Nat} :
    ¬IsLeastFree sc stem i ↔ sc.hasKey (some (Scope.numbered stem i)) = true ∨
      ∃ j < i, sc.hasKey (some (Scope.numbered stem j)) = false := by
  constructor
  · intro h
    by_contra hnot
    push Not at hnot
    exact h ⟨by simpa using hnot.1, fun j hj => by simpa using hnot.2 j hj⟩
  · rintro (h | ⟨j, hj, h⟩) hleast
    · simp [hleast.free] at h
    · simp [hleast.least j hj] at h

/-- Where names are taken as they are, no temporary has the name of something that was bound before
it in its scope or in the scopes around. The temporaries of a function or a program have none of the
names that occur in it exactly if every such name with one of their stems was visible where the
temporary was drawn, or comes after a free index. -/
theorem temporaries_capture_iff {t : Tree} {o : Options} {s s' : State} {p : Piece}
    (ho : o.camelCase = false) (h : run (visit t) o s = (.ok p, s')) :
    ∃ es, run (Tracked.visit t).run o s = (.ok (p, es), s') ∧ Clear [] es ∧
      ∀ b ∈ bodiesOf es,
        (∀ d ∈ b.2, ∀ n ∈ namesWithin b.1, nameOf? d.piece ≠ some n) ↔
          ∀ d ∈ b.2, ∀ i, Scope.numbered d.stem.text i ∈ namesWithin b.1 →
            d.scope.hasKey (some (Scope.numbered d.stem.text i)) = true ∨
              ∃ j < i, d.scope.hasKey (some (Scope.numbered d.stem.text j)) = false := by
  obtain ⟨es, hrun, hseen⟩ := exists_seen h
  refine ⟨es, hrun, hseen.clear ho, fun b hb => forall₂_congr fun d hd => ?_⟩
  have hcapture := captures_iff ho (hseen.named_within b hb d hd)
  simp only [← not_isLeastFree_iff]
  constructor
  · intro hnone i hi hleast
    exact hnone _ hi ((hcapture _).2 ⟨i, rfl, hleast⟩)
  · intro hall n hn hname
    obtain ⟨i, rfl, hleast⟩ := (hcapture n).1 hname
    exact hall i hn hleast

/-- A loop with an else part in a function whose parameter has the name of the first temporary. -/
def loopOverParameter : Tree :=
  let name (n : String) : Tree := .node .name [.text n, .missing]
  .node .functionDef [.text "f", .node .arguments [.list [.node .arg [.text "ref_0", .none]]],
    .list [.node .whileStmt [name "ref_0", .list [.node .exprStmt [name "a"]],
      .list [.node .exprStmt [name "b"]]]], .list [], .none]

theorem loopOverParameter_captured : ({} : Options).camelCase = false ∧ ∃ p s' es,
    run (visit loopOverParameter) {} {} = (.ok p, s') ∧
      run (Tracked.visit loopOverParameter).run {} {} = (.ok (p, es), s') ∧ Clear [] es ∧
      ∃ b ∈ bodiesOf es, ¬∀ d ∈ b.2, ∀ n ∈ namesWithin b.1, nameOf? d.piece ≠ some n := by
  have hok : (run (visit loopOverParameter) {} {}).1.isOk = true := by decide +kernel
  have hbodies : (run (Tracked.visit loopOverParameter).run {} {}).1.toOption.map (fun e =>
      (bodiesOf e.2).map fun b => (namesWithin b.1,
        b.2.map fun d => (d.stem.text, d.scope.hasKey (some "ref_0")))) =
      some [(["ref_0", "ref_0", "a", "b"], [("ref", false)])] := by decide +kernel
  rcases hr : run (visit loopOverParameter) {} {} with ⟨c | p, s'⟩
  · rw [hr] at hok
    cases hok
  · obtain ⟨es, hrun, hclear, hiff⟩ := temporaries_capture_iff rfl hr
    rw [hrun] at hbodies
    refine ⟨rfl, p, s', es, rfl, hrun, hclear, ?_⟩
    obtain ⟨b, hb, hbody⟩ := List.mem_map.1 (Option.some.inj hbodies ▸ List.mem_singleton_self _)
    obtain ⟨hnames, hdraws⟩ := Prod.mk.inj hbody
    obtain ⟨d, hd, hdraw⟩ := List.mem_map.1 (hdraws ▸ List.mem_singleton_self _)
    obtain ⟨hstem, hfree⟩ := Prod.mk.inj hdraw
    have hname : Scope.numbered d.stem.text 0 = "ref_0" := by
      rw [hstem]
      decide
    refine ⟨b, hb, fun hnone => ?_⟩
    -- the parameter was never bound, so its name is free
    rcases (hiff b hb).1 hnone d hd 0 (by rw [hname, hnames]; decide) with hkey | ⟨j, hj, -⟩
    · rw [hname, hfree] at hkey
      cases hkey
    · exact absurd hj (Nat.not_lt_zero j)

end Transpile.Walk
