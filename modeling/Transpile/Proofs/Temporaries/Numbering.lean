import Transpile.Proofs.Camel
import Transpile.Proofs.Reading.Token
import Transpile.Proofs.Scope
import Mathlib.Data.List.Perm.Subperm
import Mathlib.Tactic.FinCases

/-! Numbered names. A numbered name shows its stem and its index, and so does its camel case where
the stem has no digits. The search for a fresh name ends at the least index that is free: it looks at
as many indices as there are names in scope, and one more cannot be taken as well. -/

namespace Transpile

/-! Stems and indices -/

theorem toList_numbered (stem : String) (i : Nat) :
    (Scope.numbered stem i).toList = stem.toList ++ '_' :: (toString i).toList := by
  simp [Scope.numbered]

theorem underscore_notMem_digits (i : Nat) : '_' ∉ (toString i).toList := fun h => by
  cases (Reading.Token.toString_digits i).2 '_' h

/-- Texts that are followed by a separator and a part without one. -/
theorem append_sep_inj {α : Type} {sep : α} {as bs cs ds : List α} (hb : sep ∉ bs) (hd : sep ∉ ds)
    (h : as ++ sep :: bs = cs ++ sep :: ds) : as = cs ∧ bs = ds := by
  rcases List.append_eq_append_iff.1 h with ⟨es, rfl, hes⟩ | ⟨es, rfl, hes⟩
  · cases es with
    | nil => exact ⟨by simp, by simpa using hes⟩
    | cons e es =>
      obtain ⟨-, rfl⟩ := List.cons.inj hes
      simp at hb
  · cases es with
    | nil => exact ⟨by simp, by simpa using hes.symm⟩
    | cons e es =>
      obtain ⟨-, rfl⟩ := List.cons.inj hes
      simp at hd

theorem numbered_inj {stem stem' : String} {i j : Nat}
    (h : Scope.numbered stem i = Scope.numbered stem' j) : stem = stem' ∧ i = j := by
  have hlist := congrArg String.toList h
  rw [toList_numbered, toList_numbered] at hlist
  obtain ⟨hstem, hindex⟩ :=
    append_sep_inj (underscore_notMem_digits i) (underscore_notMem_digits j) hlist
  have hvalue := congrArg (fun ds => Nat.ofDigitChars 10 ds 0) hindex
  exact ⟨String.toList_inj.1 hstem, by simpa [Nat.toString_eq_ofList_toDigits] using hvalue⟩

/-- The name of constructors has no index. -/
theorem numbered_ne_init (stem : String) (i : Nat) : Scope.numbered stem i ≠ "__init__" := by
  intro h
  have hlist : stem.toList ++ '_' :: (toString i).toList = "__init_".toList ++ '_' :: [] := by
    rw [← toList_numbered, h]
    rfl
  obtain ⟨-, hdigits⟩ := append_sep_inj (underscore_notMem_digits i) List.not_mem_nil hlist
  exact (Reading.Token.toString_digits i).1 hdigits

/-! The least free index -/

/-- Up to where the search ends everything is taken, and it ends early only at a name that is not. -/
theorem firstFree_spec (taken : List String) (stem : String) (n i : Nat) :
    i ≤ Scope.firstFree taken stem n i ∧ Scope.firstFree taken stem n i ≤ i + n ∧
      (∀ j, i ≤ j → j < Scope.firstFree taken stem n i → Scope.numbered stem j ∈ taken) ∧
      (Scope.firstFree taken stem n i < i + n →
        Scope.numbered stem (Scope.firstFree taken stem n i) ∉ taken) := by
  induction n generalizing i with
  | zero =>
    exact ⟨Nat.le_refl i, Nat.le_refl i, fun j h hlt => absurd hlt (Nat.not_lt.2 h),
      fun h => absurd h (Nat.lt_irrefl i)⟩
  | succ n ih =>
    unfold Scope.firstFree
    split_ifs with htaken
    · obtain ⟨hle, hub, hall, hfree⟩ := ih (i + 1)
      refine ⟨by omega, by omega, fun j hj hlt => ?_, fun h => hfree (by omega)⟩
      rcases Nat.eq_or_lt_of_le hj with rfl | hj
      · simpa using htaken
      · exact hall j hj hlt
    · exact ⟨Nat.le_refl i, Nat.le_add_right i _, fun j h hlt => absurd hlt (Nat.not_lt.2 h),
        fun _ => by simpa using htaken⟩

/-- Not all of the first names can be taken, if there is one more of them than names. -/
theorem exists_free (taken : List String) (stem : String) :
    ∃ j ≤ taken.length, Scope.numbered stem j ∉ taken := by
  by_contra hall
  push Not at hall
  have hnodup : ((List.range (taken.length + 1)).map (Scope.numbered stem)).Nodup :=
    List.nodup_range.map fun i j h => (numbered_inj h).2
  have hsub : (List.range (taken.length + 1)).map (Scope.numbered stem) ⊆ taken := by
    intro n hn
    obtain ⟨j, hj, rfl⟩ := List.mem_map.1 hn
    exact hall j (Nat.lt_succ_iff.1 (List.mem_range.1 hj))
  have hlen := (List.subperm_of_subset hnodup hsub).length_le
  rw [List.length_map, List.length_range] at hlen
  omega

theorem mem_scope_keys {sc : Scope} {n : String} : n ∈ sc.keys ↔ sc.hasKey (some n) = true := by
  simp [Scope.keys, Scope.hasKey, mem_keys]

/-- The name is not visible, and those before it are. -/
structure IsLeastFree (sc : Scope) (stem : String) (i : Nat) : Prop where
  free : sc.hasKey (some (Scope.numbered stem i)) = false
  least : ∀ j < i, sc.hasKey (some (Scope.numbered stem j)) = true

theorem IsLeastFree.unique {sc : Scope} {stem : String} {i j : Nat} (hi : IsLeastFree sc stem i)
    (hj : IsLeastFree sc stem j) : i = j := by
  rcases Nat.lt_trichotomy i j with h | h | h
  · exact absurd (hj.least i h) (by simp [hi.free])
  · exact h
  · exact absurd (hi.least j h) (by simp [hj.free])

theorem exists_fresh (sc : Scope) (stem : String) :
    ∃ i, sc.fresh stem = Scope.numbered stem i ∧ IsLeastFree sc stem i := by
  obtain ⟨-, hub, hall, hfree⟩ := firstFree_spec sc.keys stem sc.keys.length 0
  refine ⟨_, rfl, ?_, fun j hj => mem_scope_keys.1 (hall j (Nat.zero_le j) hj)⟩
  rw [← Bool.not_eq_true, ← mem_scope_keys]
  intro hin
  -- Otherwise the search went to its end, and nothing up to there is free.
  obtain ⟨j, hj, hnot⟩ := exists_free sc.keys stem
  have hend : ¬Scope.firstFree sc.keys stem sc.keys.length 0 < 0 + sc.keys.length :=
    fun h => hfree h hin
  rcases Nat.lt_or_ge j (Scope.firstFree sc.keys stem sc.keys.length 0) with hlt | hge
  · exact hnot (hall j (Nat.zero_le j) hlt)
  · rw [show j = Scope.firstFree sc.keys stem sc.keys.length 0 by omega] at hnot
    exact hnot hin

/-- A name is the one that is drawn exactly if it has the least free index. -/
theorem fresh_eq_iff {sc : Scope} {stem n : String} :
    sc.fresh stem = n ↔ ∃ i, n = Scope.numbered stem i ∧ IsLeastFree sc stem i := by
  obtain ⟨i, hi, hleast⟩ := exists_fresh sc stem
  constructor
  · rintro rfl
    exact ⟨i, hi, hleast⟩
  · rintro ⟨j, rfl, hj⟩
    rw [hi, hleast.unique hj]

theorem hasKey_fresh (sc : Scope) (stem : String) : sc.hasKey (some (sc.fresh stem)) = false := by
  obtain ⟨i, hi, hleast⟩ := exists_fresh sc stem
  rw [hi]
  exact hleast.free

/-! Camel case -/

namespace Text

/-- Title case leaves digits as they are. -/
theorem titleFrom_digits (before : List Char) {ds : List Char} (h : ∀ d ∈ ds, d.isDigit = true) :
    titleFrom before ds = ds := by
  induction ds generalizing before with
  | nil => rfl
  | cons d ds ih =>
    have hd := Reading.Token.isDigit_cases (h d (.head _))
    have hlower : lowerIn before d ds = [d] := by
      fin_cases hd <;> rfl
    have htitle : titleChar d = [d] := by
      fin_cases hd <;> rfl
    rw [titleFrom, hlower, htitle, ite_self, ih _ fun e he => h e (.tail _ he)]
    rfl

theorem camel_numbered (stem : String) (i : Nat) :
    camel (Scope.numbered stem i) = camel stem ++ toString i := by
  apply String.toList_inj.1
  rw [String.toList_append, camel, camel, String.toList_ofList, String.toList_ofList, camelChars,
    camelChars, toList_numbered, splitAt_append, splitAt_of_notMem (underscore_notMem_digits i)]
  cases hs : splitAt '_' stem.toList with
  | nil => exact absurd hs (splitAt_ne_nil _ _)
  | cons p ps =>
    have hdigits := titleFrom_digits [] (Reading.Token.toString_digits i).2
    simp only [List.cons_append, List.flatMap_append, List.flatMap_singleton, hdigits,
      List.append_assoc]

end Text

/-- What is not a digit and the digits after it can be told apart. -/
theorem append_digits_inj {as bs ds es : List Char} (ha : ∀ c ∈ as, c.isDigit = false)
    (hb : ∀ c ∈ bs, c.isDigit = false) (hd : ∀ c ∈ ds, c.isDigit = true)
    (he : ∀ c ∈ es, c.isDigit = true) (h : as ++ ds = bs ++ es) : as = bs ∧ ds = es := by
  rcases List.append_eq_append_iff.1 h with ⟨xs, rfl, rfl⟩ | ⟨xs, rfl, rfl⟩
  · cases xs with
    | nil => simp
    | cons x xs =>
      have hx := hb x (by simp)
      rw [hd x (by simp)] at hx
      cases hx
  · cases xs with
    | nil => simp
    | cons x xs =>
      have hx := ha x (by simp)
      rw [he x (by simp)] at hx
      cases hx

end Transpile
