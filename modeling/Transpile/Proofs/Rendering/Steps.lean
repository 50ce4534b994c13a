import Transpile.Proofs.Layout.Uniform
import Transpile.Proofs.Parts
import Transpile.Proofs.Rendering.Brackets

/-! Renderings that succeed. Every step of the renderer ends at the level where it started and gives
texts with no bracket owed, if its parts do. What is said of brackets is left open: it may be that
they are read, or nothing at all. -/

namespace Transpile.Script

open Render Text

section

variable {α β : Type} {unit : String} {i j k : Nat}

/-- A run from `i` levels below any level that succeeds ends `j` levels below it, with a result as
described. -/
def Returns (unit : String) (i j : Nat) (w : Render α) (P : α → Prop) : Prop :=
  ∀ level a level', w unit (level + i) = (.ok a, level') → level' = level + j ∧ P a

theorem run_bind_of_render {w : Render α} {f : α → Render β} {level level' : Nat} {b : β}
    (h : (w >>= f) unit level = (.ok b, level')) :
    ∃ a level1, w unit level = (.ok a, level1) ∧ f a unit level1 = (.ok b, level') := by
  rcases hw : w unit level with ⟨c | a, level1⟩
  · rw [bind_of_error hw] at h
    cases h
  · rw [bind_of_ok hw] at h
    exact ⟨a, level1, rfl, h⟩

theorem returns_pure {a : α} {P : α → Prop} (h : P a) : Returns unit i i (pure a) P := by
  intro level b level' hr
  cases hr
  exact ⟨rfl, h⟩

theorem returns_throw {c : Cause} {P : α → Prop} : Returns unit i j (throw c) P := by
  intro level a level' hr
  cases hr

theorem returns_bind {w : Render α} {f : α → Render β} {P : α → Prop} {Q : β → Prop}
    (hw : Returns unit i j w P) (hf : ∀ a, P a → Returns unit j k (f a) Q) :
    Returns unit i k (w >>= f) Q := by
  intro level b level' hr
  obtain ⟨a, level1, h1, h2⟩ := run_bind_of_render hr
  obtain ⟨rfl, ha⟩ := hw level a level1 h1
  exact hf a ha level b level' h2

theorem returns_ite {c : Prop} [Decidable c] {v w : Render α} {P : α → Prop}
    (hv : c → Returns unit i j v P) (hw : ¬ c → Returns unit i j w P) :
    Returns unit i j (if c then v else w) P := by
  split_ifs with h
  · exact hv h
  · exact hw h

theorem Returns.shift {w : Render α} {P : α → Prop} (hw : Returns unit 0 0 w P) (i : Nat) :
    Returns unit i i w P :=
  fun level a level' hr => hw (level + i) a level' hr

theorem returns_deeper : Returns unit i (i + 2) deeper fun _ => True := by
  intro level a level' hr
  cases hr
  exact ⟨rfl, trivial⟩

theorem returns_shallower : Returns unit (i + 2) i shallower fun _ => True := by
  intro level a level' hr
  cases hr
  exact ⟨rfl, trivial⟩

theorem returns_mapM {f : α → Render β} {as : List α} {Q : β → Prop}
    (h : ∀ a ∈ as, Returns unit i i (f a) Q) :
    Returns unit i i (as.mapM f) fun bs => ∀ b ∈ bs, Q b := by
  induction as with
  | nil => exact returns_pure (by simp)
  | cons a as ih =>
    rw [List.mapM_cons]
    refine returns_bind (h a (by simp)) fun b hb => ?_
    refine returns_bind (ih fun c hc => h c (by simp [hc])) fun bs hbs => ?_
    exact returns_pure (by simpa using ⟨hb, hbs⟩)

end

/-! Texts with no bracket owed -/

/-- What is said of the brackets owed before and after a text: at least what reading them says, and
what is said of two texts is said of both in a row. -/
structure Tracks (R : List Char → String → List Char → Prop) : Prop where
  word {a b : List Char} {s : String} : Reads a s b → R a s b
  append {a b c : List Char} {s t : String} : R a s b → R b t c → R a (s ++ t) c

theorem tracks_reads : Tracks Reads := ⟨id, Reads.append⟩

theorem tracks_nothing : Tracks fun _ _ _ => True := ⟨fun _ => trivial, fun _ _ => trivial⟩

/-- Whatever is owed, the text leaves it owed. -/
def Even (R : List Char → String → List Char → Prop) (s : String) : Prop := ∀ owed, R owed s owed

section

variable {R : List Char → String → List Char → Prop} {unit : String} {i : Nat}

/-- A piece that shows as an even text. -/
abbrev EvenShown (R : List Char → String → List Char → Prop) (p : Piece) : Prop := Even R p.shown

theorem returns_say {s : String} (hs : Even R s) : Returns unit i i (say s) (EvenShown R) :=
  returns_pure hs

theorem returns_textOf {p : Piece} (hp : EvenShown R p) : Returns unit i i (textOf p) (Even R) := by
  unfold textOf
  split
  · exact returns_pure hp
  · exact returns_throw

variable (hR : Tracks R)

include hR

theorem even_word {s : String} (hs : s.toList.any isBracket = false) : Even R s :=
  fun owed => hR.word ((nested_of_any hs).reads owed)

theorem even_empty : Even R "" := even_word hR (by decide)

theorem Even.append {s t : String} (hs : Even R s) (ht : Even R t) : Even R (s ++ t) :=
  fun owed => hR.append (hs owed) (ht owed)

theorem Even.wrap {s : String} (hs : Even R s) (m : Marks) : Even R (m.wrap s) := by
  unfold Marks.wrap
  split_ifs
  · exact fun owed => hR.append (hR.append (hR.word rfl) (hs _)) (hR.word rfl)
  · exact hs

theorem even_join {ss : List String} (h : ∀ s ∈ ss, Even R s) : Even R (String.join ss) := by
  induction ss with
  | nil => exact even_empty hR
  | cons s ss ih =>
    rw [String.join_cons]
    exact (h s (by simp)).append hR (ih fun t ht => h t (by simp [ht]))

theorem even_intercalate {sep : String} (hsep : Even R sep) {ss : List String}
    (h : ∀ s ∈ ss, Even R s) : Even R (sep.intercalate ss) := by
  induction ss with
  | nil => exact even_empty hR
  | cons s ss ih =>
    cases ss with
    | nil => simpa using h s (by simp)
    | cons t ss =>
      rw [String.intercalate_cons_cons]
      exact ((h s (by simp)).append hR hsep).append hR (ih fun u hu => h u (by simp [hu]))

end

/-! Items -/

/-- The renderings of the item give even texts. -/
structure Render.Item.Steady (R : List Char → String → List Char → Prop) (unit : String) (x : Item) :
    Prop where
  run : Returns unit 0 0 x.run (EvenShown R)
  asCase : Returns unit 0 0 x.asCase (Even R)

section

variable {R : List Char → String → List Char → Prop} {unit : String} {i : Nat} {xs : List Item}

theorem steady_present (h : ∀ x ∈ xs, x.Steady R unit) : ∀ x ∈ present xs, x.Steady R unit :=
  fun x hx => h x (List.mem_filter.1 hx).1

variable (hR : Tracks R)

include hR

theorem returns_list {sep : String} (hsep : Even R sep) (h : ∀ x ∈ xs, x.Steady R unit) :
    Returns unit 0 0 (list sep xs) (Even R) := by
  refine returns_bind (returns_mapM fun x hx => (h x hx).run) fun ps hps => ?_
  refine returns_bind (returns_mapM fun p hp => returns_textOf (hps p hp)) fun ss hss => ?_
  exact returns_pure (even_intercalate hR hsep hss)

theorem returns_cells (h : ∀ x ∈ xs, x.Steady R unit) : Returns unit 0 0 (cells xs) (Even R) := by
  induction xs with
  | nil => exact returns_pure (even_empty hR)
  | cons x xs ih =>
    have hrest {s : String} (hs : Even R s) :
        Returns unit 0 0 (do let t ← cells xs; return s ++ t) (Even R) :=
      returns_bind (ih fun y hy => h y (by simp [hy])) fun t ht => returns_pure (hs.append hR ht)
    unfold cells
    split
    · exact hrest (even_word hR (by decide))
    · refine returns_bind (h x (by simp)).run fun p hp => ?_
      refine returns_bind (returns_textOf hp) fun s hs => hrest ?_
      split_ifs
      · exact hs
      · exact hs.append hR (even_word hR (by decide))

variable (hunit : Even R unit)

include hunit

theorem returns_margin : Returns unit i i margin (Even R) := by
  intro level a level' hr
  cases hr
  refine ⟨rfl, even_join hR fun s hs => ?_⟩
  rwa [(List.mem_replicate.1 hs).2]

theorem returns_lines {sep : String} (hsep : Even R sep) (h : ∀ x ∈ xs, x.Steady R unit) :
    Returns unit i i (lines sep xs) (Even R) := by
  have hline : ∀ x ∈ xs, Returns unit i i
      (do let m ← margin; return m ++ (← textOf (← x.run))) (Even R) := by
    intro x hx
    refine returns_bind (returns_margin hR hunit) fun m hm => ?_
    refine returns_bind ((h x hx).run.shift i) fun p hp => ?_
    exact returns_bind (returns_textOf hp) fun s hs => returns_pure (hm.append hR hs)
  exact returns_bind (returns_mapM hline) fun ss hss => returns_pure (even_intercalate hR hsep hss)

/-- The level is raised for the lines of a body and put back after them. -/
theorem returns_indented {sep : String} (hsep : Even R sep) {w : Render (List Item)}
    (hw : Returns unit 2 2 w fun xs => ∀ x ∈ xs, x.Steady R unit) :
    Returns unit 0 0 (indented sep w) (Even R) := by
  refine returns_bind returns_deeper fun _ _ => returns_bind hw fun xs hxs => ?_
  refine returns_bind (returns_lines hR hunit hsep hxs) fun s hs => ?_
  exact returns_bind returns_shallower fun _ _ => returns_pure hs

theorem returns_cases (h : ∀ x ∈ xs, x.Steady R unit) :
    Returns unit i i (Render.cases xs) (Even R) := by
  have hcase : ∀ x ∈ xs, Returns unit i i (do let m ← margin; return m ++ (← x.asCase)) (Even R) := by
    intro x hx
    refine returns_bind (returns_margin hR hunit) fun m hm => ?_
    exact returns_bind ((h x hx).asCase.shift i) fun s hs => returns_pure (hm.append hR hs)
  exact returns_bind (returns_mapM hcase) fun ss hss => returns_pure (even_join hR hss)

theorem returns_braces {body : String} (hbody : Even R body) :
    Returns unit i i (braces body) (Even R) := by
  refine returns_bind (returns_margin hR hunit) fun m hm => returns_pure fun _ => ?_
  exact hR.append (hR.append (hR.append (hR.append (hR.word rfl) (hbody _)) (hR.word rfl)) (hm _))
    (hR.word rfl)

end

end Transpile.Script
