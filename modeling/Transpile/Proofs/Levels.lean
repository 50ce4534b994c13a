import Transpile.Levels
import Mathlib.Tactic.Common

/-! The levels seen through `at?`: writing an entry changes one level, leaving a level removes its
entry and no other. -/

namespace Transpile.Levels

variable {α : Type}

theorem lookup_put_self (n : Int) (xs : List α) (es : List (Int × List α)) :
    (put n xs es).lookup n = some xs := by
  induction es with
  | nil => simp [put]
  | cons e es ih =>
    unfold put
    split_ifs with h1 h2
    · simp
    · simp
    · have hne : (n == e.1) = false := by simpa using fun h => h1 h.symm
      rw [List.lookup_cons, hne]
      exact ih

theorem lookup_put_of_ne {m n : Int} (hmn : m ≠ n) (xs : List α) (es : List (Int × List α)) :
    (put n xs es).lookup m = es.lookup m := by
  have hb : (m == n) = false := by simpa using hmn
  induction es with
  | nil => simp [put, hmn]
  | cons e es ih =>
    unfold put
    split_ifs with h1 h2
    · rw [List.lookup_cons, List.lookup_cons, hb, h1, hb]
    · rw [List.lookup_cons, hb]
    · rw [List.lookup_cons, List.lookup_cons, ih]

theorem lookup_filter_self (n : Int) (es : List (Int × List α)) :
    (es.filter fun e => e.1 ≠ n).lookup n = none := by
  rw [List.lookup_eq_none_iff]
  intro e he
  have := (List.mem_filter.1 he).2
  simp only [ne_eq, decide_not, Bool.not_eq_eq_eq_not, Bool.not_true, decide_eq_false_iff_not] at this
  simpa using fun h => this h.symm

theorem lookup_filter_of_ne {m n : Int} (hmn : m ≠ n) (es : List (Int × List α)) :
    (es.filter fun e => e.1 ≠ n).lookup m = es.lookup m := by
  induction es with
  | nil => rfl
  | cons e es ih =>
    by_cases he : e.1 = n
    · have hb : (m == e.1) = false := by simpa [he] using hmn
      rw [List.filter_cons_of_neg (by simp [he]), ih, List.lookup_cons, hb]
    · rw [List.filter_cons_of_pos (by simp [he]), List.lookup_cons, List.lookup_cons, ih]

variable (l : Levels α)

@[simp] theorem level_up : l.up.level = l.level + 1 := rfl

@[simp] theorem at?_up (n : Int) : l.up.at? n = l.at? n := rfl

@[simp] theorem level_appendAll (xs : List α) : (l.appendAll xs).level = l.level := rfl

@[simp] theorem level_touch : l.touch.level = l.level := rfl

theorem at?_appendAll_self (xs : List α) :
    (l.appendAll xs).at? l.level = some (l.current ++ xs) := lookup_put_self _ _ _

theorem at?_appendAll_of_ne (xs : List α) {n : Int} (hn : n ≠ l.level) :
    (l.appendAll xs).at? n = l.at? n := lookup_put_of_ne hn _ _

@[simp] theorem current_appendAll (xs : List α) : (l.appendAll xs).current = l.current ++ xs := by
  unfold current
  rw [level_appendAll, at?_appendAll_self]
  rfl

theorem at?_touch_self : l.touch.at? l.level = some l.current := by
  rw [touch, at?_appendAll_self, List.append_nil]

theorem at?_touch_of_ne {n : Int} (hn : n ≠ l.level) : l.touch.at? n = l.at? n :=
  at?_appendAll_of_ne l [] hn

@[simp] theorem current_touch : l.touch.current = l.current := by
  rw [touch, current_appendAll, List.append_nil]

/-- A level above zero that has an entry can be left. -/
theorem down_ok {xs : List α} (hl : 0 < l.level) (he : l.at? l.level = some xs) :
    l.down.1 = .ok () := by
  unfold down
  rw [he]
  exact if_neg (by simp only; omega)

theorem down_of_some {xs : List α} (he : l.at? l.level = some xs) :
    l.down.2 = ⟨l.level - 1, l.entries.filter fun e => e.1 ≠ l.level⟩ := by
  unfold down
  rw [he]

/-- A level without an entry cannot be left. -/
theorem down_of_none (he : l.at? l.level = none) : l.down = (.error .missingKey, l) := by
  unfold down
  rw [he]

theorem at?_down {xs : List α} (he : l.at? l.level = some xs) (n : Int) :
    l.down.2.at? n = if n = l.level then none else l.at? n := by
  rw [down_of_some l he]
  split_ifs with h
  · rw [h]
    exact lookup_filter_self _ _
  · exact lookup_filter_of_ne h _

theorem level_touch_down : l.touch.down.2.level = l.level - 1 := by
  rw [down_of_some _ (at?_touch_self l), level_touch]

theorem at?_touch_down (n : Int) :
    l.touch.down.2.at? n = if n = l.level then none else l.at? n := by
  rw [at?_down _ (at?_touch_self l), level_touch]
  split_ifs with h
  · rfl
  · exact at?_touch_of_ne l h

end Transpile.Levels
