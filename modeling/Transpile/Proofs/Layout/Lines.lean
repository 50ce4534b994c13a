import Transpile.Script.Render
import Mathlib.Tactic.Common

/-! Text as lines with depths. A layout says which lines there are, how deep each stands and what it
holds; only the width of a level and the level of the whole are left open. -/

namespace Transpile.Script

/-- The blanks before a line at the level. -/
def marginOf (unit : String) (level : Nat) : String := String.join (List.replicate level unit)

theorem break_notMem_marginOf {unit : String} (hunit : '\n' ∉ unit.toList) (level : Nat) :
    '\n' ∉ (marginOf unit level).toList := by
  simp [marginOf, String.toList_join, List.mem_replicate, hunit]

/-- A line after the first: of an empty body, or a text so many levels below the whole. -/
inductive Line where
  | blank
  | text (depth : Nat) (s : String)
  deriving DecidableEq, Repr

/-- What the line holds after its blanks. -/
def Line.body : Line → String
  | .blank => ""
  | .text _ s => s

def Line.at (unit : String) (level : Nat) : Line → String
  | .blank => ""
  | .text depth s => marginOf unit (level + depth) ++ s

/-- Lines of text; an empty line may stand before a line. -/
inductive Layout where
  | last (s : String)
  | line (s : String) (gap : Bool) (depth : Nat) (next : Layout)
  deriving DecidableEq, Repr

namespace Layout

def text (unit : String) (level : Nat) : Layout → String
  | last s => s
  | line s gap depth next =>
    s ++ "\n" ++ (if gap then "\n" else "") ++ marginOf unit (level + depth) ++ next.text unit level

def first : Layout → String
  | last s => s
  | line s .. => s

def isMulti : Layout → Bool
  | last _ => false
  | line .. => true

/-- The lines after the first. -/
def rest : Layout → List Line
  | last _ => []
  | line _ gap depth next =>
    (if gap then [.blank] else []) ++ .text depth next.first :: next.rest

theorem text_eq (unit : String) (level : Nat) (y : Layout) :
    y.text unit level = "\n".intercalate (y.first :: y.rest.map (Line.at unit level)) := by
  induction y with
  | last s => simp [text, first, rest]
  | line s gap depth next ih =>
    cases gap with
    | false =>
      simp only [text, first, rest, Line.at, List.map_cons, List.nil_append, ih,
        String.intercalate_cons_cons, String.intercalate_cons_append, String.append_assoc,
        Bool.false_eq_true, if_false, String.empty_append]
    | true =>
      simp only [text, first, rest, Line.at, List.map_cons, List.cons_append, List.nil_append, ih,
        String.intercalate_cons_cons, String.intercalate_cons_append, String.append_assoc, if_true,
        String.empty_append]

/-! Putting layouts together -/

/-- Goes on in the first line of a layout. -/
def after (s : String) : Layout → Layout
  | last t => last (s ++ t)
  | line t gap depth next => line (s ++ t) gap depth next

/-- The second layout goes on in the last line of the first. -/
def beside : Layout → Layout → Layout
  | last s, z => z.after s
  | line s gap depth next, z => line s gap depth (next.beside z)

/-- The second layout starts a line of its own. -/
def above : Layout → Bool → Nat → Layout → Layout
  | last s, gap, depth, z => line s gap depth z
  | line s gap' depth' next, gap, depth, z => line s gap' depth' (next.above gap depth z)

/-- The lines after the first stand deeper. -/
def deepen (k : Nat) : Layout → Layout
  | last s => last s
  | line s gap depth next => line s gap (k + depth) (next.deepen k)

theorem text_after (unit : String) (level : Nat) (s : String) (y : Layout) :
    (y.after s).text unit level = s ++ y.text unit level := by
  cases y <;> simp [after, text, String.append_assoc]

theorem text_beside (unit : String) (level : Nat) (y z : Layout) :
    (y.beside z).text unit level = y.text unit level ++ z.text unit level := by
  induction y with
  | last s => exact text_after ..
  | line s gap depth next ih => simp [beside, text, ih, String.append_assoc]

theorem text_above (unit : String) (level : Nat) (y z : Layout) (gap : Bool) (depth : Nat) :
    (y.above gap depth z).text unit level = y.text unit level ++ "\n" ++ (if gap then "\n" else "")
      ++ marginOf unit (level + depth) ++ z.text unit level := by
  induction y with
  | last s => rfl
  | line s gap' depth' next ih => simp [above, text, ih, String.append_assoc]

theorem text_deepen (unit : String) (level k : Nat) (y : Layout) :
    (y.deepen k).text unit level = y.text unit (level + k) := by
  induction y with
  | last s => rfl
  | line s gap depth next ih => simp [deepen, text, ih, Nat.add_assoc]

/-! Layouts that are really lines -/

@[simp] theorem first_after (s : String) (y : Layout) : (y.after s).first = s ++ y.first := by
  cases y <;> rfl

@[simp] theorem first_above (y z : Layout) (gap : Bool) (depth : Nat) :
    (y.above gap depth z).first = y.first := by
  cases y <;> rfl

@[simp] theorem first_deepen (k : Nat) (y : Layout) : (y.deepen k).first = y.first := by
  cases y <;> rfl

@[simp] theorem isMulti_deepen (k : Nat) (y : Layout) : (y.deepen k).isMulti = y.isMulti := by
  cases y <;> rfl

theorem first_beside (y z : Layout) :
    (y.beside z).first = if y.isMulti then y.first else y.first ++ z.first := by
  cases y with
  | last s => exact first_after s z
  | line s gap depth next => rfl

theorem isMulti_beside (y z : Layout) : (y.beside z).isMulti = (y.isMulti || z.isMulti) := by
  cases y with
  | last s => cases z <;> rfl
  | line s gap depth next => rfl

/-- The lines after the first hold no break; one without text stands deeper than the whole, and only
where texts need not be `full`. -/
def Lined (full : Bool) : Layout → Prop
  | last _ => True
  | line _ _ depth next =>
    '\n' ∉ next.first.toList ∧ (next.first = "" → full = false ∧ 0 < depth) ∧ next.Lined full

section

variable {full : Bool} {y z : Layout}

theorem lined_after {s : String} (h : z.Lined full) : (z.after s).Lined full := by
  cases z <;> exact h

theorem lined_beside (hy : y.Lined full) (hz : z.Lined full) (hfirst : '\n' ∉ z.first.toList) :
    (y.beside z).Lined full := by
  induction y with
  | last s => exact lined_after hz
  | line s gap depth next ih =>
    obtain ⟨hline, htext, hnext⟩ := hy
    refine ⟨?_, fun h => htext ?_, ih hnext⟩
    · rw [first_beside]
      split_ifs
      · exact hline
      · simpa using ⟨hline, hfirst⟩
    · rw [first_beside] at h
      split_ifs at h
      · exact h
      · exact (String.append_eq_empty_iff.1 h).1

theorem lined_above {gap : Bool} {depth : Nat} (hy : y.Lined full) (hz : z.Lined full)
    (hfirst : '\n' ∉ z.first.toList) (htext : z.first = "" → full = false ∧ 0 < depth) :
    (y.above gap depth z).Lined full := by
  induction y with
  | last s => exact ⟨hfirst, htext, hz⟩
  | line s gap' depth' next ih =>
    obtain ⟨hline, htext', hnext⟩ := hy
    exact ⟨by rwa [first_above], by rwa [first_above], ih hnext⟩

theorem lined_deepen {k : Nat} (hy : y.Lined full) : (y.deepen k).Lined full := by
  induction y with
  | last s => exact hy
  | line s gap depth next ih =>
    obtain ⟨hline, htext, hnext⟩ := hy
    refine ⟨by rwa [first_deepen], fun h => ?_, ih hnext⟩
    rw [first_deepen] at h
    exact ⟨(htext h).1, Nat.add_pos_right k (htext h).2⟩

end

structure Sound (full : Bool) (y : Layout) : Prop where
  single : '\n' ∉ y.first.toList
  lined : y.Lined full
  /-- Further lines follow a line that holds something. -/
  opened : y.isMulti = true → y.first ≠ ""

section

variable {full : Bool} {y z : Layout}

theorem Sound.first_beside_ne (hy : y.Sound full) (h : y.first ≠ "" ∨ z.first ≠ "") :
    (y.beside z).first ≠ "" := by
  rw [first_beside]
  split_ifs with hm
  · exact hy.opened hm
  · rw [ne_eq, String.append_eq_empty_iff]
    tauto

theorem Sound.beside (hy : y.Sound full) (hz : z.Sound full) : (y.beside z).Sound full := by
  refine ⟨?_, lined_beside hy.lined hz.lined hz.single, fun hm => hy.first_beside_ne ?_⟩
  · rw [first_beside]
    split_ifs
    · exact hy.single
    · simpa using ⟨hy.single, hz.single⟩
  · rw [isMulti_beside, Bool.or_eq_true] at hm
    exact hm.imp hy.opened hz.opened

theorem Sound.above {gap : Bool} {depth : Nat} (hy : y.Sound full) (hz : z.Sound full)
    (hopen : y.first ≠ "") (htext : z.first = "" → full = false ∧ 0 < depth) :
    (y.above gap depth z).Sound full := by
  refine ⟨?_, lined_above hy.lined hz.lined hz.single htext, fun _ => ?_⟩
  · rw [first_above]
    exact hy.single
  · rwa [first_above]

theorem Sound.deepen {k : Nat} (hy : y.Sound full) : (y.deepen k).Sound full := by
  refine ⟨?_, lined_deepen hy.lined, fun hm => ?_⟩
  · rw [first_deepen]
    exact hy.single
  · rw [first_deepen]
    exact hy.opened (by rwa [isMulti_deepen] at hm)

/-- Every line after the first is of an empty body or holds a text. -/
theorem Lined.of_mem (h : y.Lined full) {depth : Nat} {s : String} (hs : .text depth s ∈ y.rest) :
    '\n' ∉ s.toList ∧ (s = "" → full = false ∧ 0 < depth) := by
  induction y with
  | last t => cases hs
  | line t gap d next ih =>
    obtain ⟨hline, htext, hnext⟩ := h
    have hmem : Line.text depth s = .text d next.first ∨ Line.text depth s ∈ next.rest := by
      cases gap <;> simpa [rest] using hs
    rcases hmem with heq | hmem
    · cases heq
      exact ⟨hline, htext⟩
    · exact ih hnext hmem

/-- The breaks of the text are those between its lines. -/
theorem Sound.splitOn_text (hy : y.Sound full) {unit : String} (hunit : '\n' ∉ unit.toList)
    (level : Nat) : (y.text unit level).toList.splitOn '\n' =
      (y.first :: y.rest.map (Line.at unit level)).map String.toList := by
  have hline : ∀ s ∈ y.first :: y.rest.map (Line.at unit level), '\n' ∉ s.toList := by
    simp only [List.mem_cons, List.mem_map]
    rintro s (rfl | ⟨_ | ⟨depth, t⟩, ht, rfl⟩)
    · exact hy.single
    · simp [Line.at]
    · simp [Line.at, break_notMem_marginOf hunit, (hy.lined.of_mem ht).1]
  rw [text_eq, String.toList_intercalate]
  refine List.splitOn_intercalate _ (fun l hl => ?_) (by simp)
  obtain ⟨s, hs, rfl⟩ := List.mem_map.1 hl
  exact hline s hs

end

end Layout

/-! Texts that are laid out -/

/-- A text, given the blanks of a level and the level of the whole. -/
abbrev Leveled := String → Nat → String

/-- The text is a layout at every level; if `opened`, its first line is not empty. -/
def Layered (full : Bool) (opened : Prop) (g : Leveled) : Prop :=
  ∃ y : Layout, y.Sound full ∧ (opened → y.first ≠ "") ∧
    ∀ unit level, g unit level = y.text unit level

section

variable {full : Bool} {a b : Prop} {g h : Leveled}

theorem Layered.imp (hg : Layered full a g) (hab : b → a) : Layered full b g := by
  obtain ⟨y, hy, hopen, htext⟩ := hg
  exact ⟨y, hy, hopen ∘ hab, htext⟩

theorem Layered.word {s : String} (hs : '\n' ∉ s.toList) : Layered full (s ≠ "") fun _ _ => s :=
  ⟨.last s, ⟨hs, trivial, nofun⟩, id, fun _ _ => rfl⟩

theorem Layered.opening {s : String} (hs : s ≠ "" ∧ '\n' ∉ s.toList) :
    Layered full True fun _ _ => s :=
  (Layered.word hs.2).imp fun _ => hs.1

theorem Layered.append (hg : Layered full a g) (hh : Layered full b h) :
    Layered full (a ∨ b) fun unit level => g unit level ++ h unit level := by
  obtain ⟨y, hy, hya, hyt⟩ := hg
  obtain ⟨z, hz, hzb, hzt⟩ := hh
  refine ⟨y.beside z, hy.beside hz, fun hab => hy.first_beside_ne (hab.imp hya hzb), ?_⟩
  intro unit level
  simp only [Layout.text_beside, hyt, hzt]

theorem Layered.then (hg : Layered full a g) (hh : Layered full b h) :
    Layered full a fun unit level => g unit level ++ h unit level :=
  (hg.append hh).imp .inl

/-- Whatever stands before it, a text that is not empty leaves no empty line. -/
theorem Layered.closed (hg : Layered full a g) {s : String} (hs : s ≠ "" ∧ '\n' ∉ s.toList) :
    Layered full True fun unit level => g unit level ++ s :=
  (hg.append (.opening hs)).imp .inr

/-- The second text on a line of its own. -/
theorem Layered.above (hg : Layered full True g) (hh : Layered full b h) (gap : Bool) (depth : Nat)
    (hb : ¬ b → full = false ∧ 0 < depth) :
    Layered full True fun unit level => g unit level ++ "\n" ++ (if gap then "\n" else "")
      ++ marginOf unit (level + depth) ++ h unit level := by
  obtain ⟨y, hy, hya, hyt⟩ := hg
  obtain ⟨z, hz, hzb, hzt⟩ := hh
  refine ⟨y.above gap depth z, hy.above hz (hya trivial) ?_, fun _ => ?_, fun unit level => ?_⟩
  · exact fun hempty => hb fun h => hzb h hempty
  · rw [Layout.first_above]
    exact hya trivial
  · simp only [Layout.text_above, hyt, hzt]

theorem Layered.deepen (hg : Layered full a g) (k : Nat) :
    Layered full a fun unit level => g unit (level + k) := by
  obtain ⟨y, hy, hya, hyt⟩ := hg
  refine ⟨y.deepen k, hy.deepen, ?_, fun unit level => ?_⟩
  · rwa [Layout.first_deepen]
  · simp only [Layout.text_deepen, hyt]

theorem Layered.wrap (hg : Layered full a g) (m : Marks) :
    Layered full a fun unit level => m.wrap (g unit level) := by
  unfold Marks.wrap
  split_ifs
  · exact Layered.imp (.closed (.then (.opening (by decide)) hg) (by decide)) fun _ => trivial
  · exact hg

theorem layered_intercalate {sep : String} (hsep : '\n' ∉ sep.toList) {gs : List Leveled}
    (hgs : ∀ g ∈ gs, Layered full False g) :
    Layered full False fun unit level => sep.intercalate (gs.map fun g => g unit level) := by
  induction gs with
  | nil => exact Layered.imp (.word (by decide)) False.elim
  | cons g gs ih =>
    have hg := hgs g (by simp)
    cases gs with
    | nil => simpa using hg
    | cons g' gs =>
      have hrest := ih fun h hh => hgs h (by simp [hh])
      simp only [List.map_cons, String.intercalate_cons_cons]
      exact (hg.then (.word hsep)).then hrest

/-- Lines two levels deeper after an opening line, with the mark between them. -/
theorem layered_rows (hg : Layered full True g) {mark : String} (hmark : '\n' ∉ mark.toList)
    {hs : List Leveled} (hne : hs ≠ []) (hhs : ∀ h ∈ hs, Layered full (full = true) h) :
    Layered full True fun unit level => g unit level ++ "\n" ++
      (mark ++ "\n").intercalate (hs.map fun h => marginOf unit (level + 2) ++ h unit (level + 2)) := by
  induction hs generalizing g with
  | nil => exact absurd rfl hne
  | cons h hs ih =>
    have hrow := hg.above ((hhs h (by simp)).deepen 2) false 2
      (by simp only [Bool.not_eq_true]; exact fun hf => ⟨hf, by decide⟩)
    simp only [Bool.false_eq_true, if_false, String.append_empty] at hrow
    cases hs with
    | nil => simpa [String.append_assoc] using hrow
    | cons h' hs =>
      have hmore := ih (hrow.then (.word hmark)) (by simp)
        fun k hk => hhs k (by simp [hk])
      simp only [List.map_cons, String.intercalate_cons_cons, String.append_assoc] at hmore ⊢
      exact hmore

/-- A body and its closing brace. Without rows there may still be a line for them, an empty one. -/
theorem layered_body (hg : Layered full True g) {mark : String} (hmark : '\n' ∉ mark.toList)
    {hs : List Leveled} (hhs : ∀ h ∈ hs, Layered full (full = true) h) (own : Bool)
    (hown : own = false → hs = []) :
    Layered full True fun unit level => g unit level ++ "\n" ++
      (mark ++ "\n").intercalate (hs.map fun h => marginOf unit (level + 2) ++ h unit (level + 2)) ++
      (if own then "\n" else "") ++ marginOf unit level ++ "\x7d" := by
  have hclose : Layered full True fun _ _ => "\x7d" := .opening (by decide)
  by_cases hne : hs = []
  · have h := hg.above hclose own 0 (fun h => absurd trivial h)
    subst hne
    simpa [String.append_assoc] using h
  · have hself : own = true := by
      cases own
      · exact absurd (hown rfl) hne
      · rfl
    have h := (layered_rows hg hmark hne hhs).above hclose false 0 (fun h => absurd trivial h)
    subst hself
    simpa [String.append_assoc] using h

/-- Cases on lines of their own, each with a break at its end. -/
theorem layered_cases (hg : Layered full True g) {hs : List Leveled}
    (hhs : ∀ h ∈ hs, Layered full True h) :
    ∃ k, Layered full True k ∧ ∀ unit level, k unit level ++ "\n" = g unit level ++ "\n" ++
      String.join (hs.map fun h => marginOf unit (level + 2) ++ (h unit (level + 2) ++ "\n")) := by
  induction hs generalizing g with
  | nil => exact ⟨g, hg, by simp⟩
  | cons h hs ih =>
    have hrow := hg.above ((hhs h (by simp)).deepen 2) false 2 (fun h => absurd trivial h)
    obtain ⟨k, hk, heq⟩ := ih hrow fun k hk => hhs k (by simp [hk])
    exact ⟨k, hk, fun unit level => by simp [heq, String.append_assoc]⟩

end

end Transpile.Script
