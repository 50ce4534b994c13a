import Transpile.Walk.Names
import Mathlib.Data.List.Nodup
import Mathlib.Tactic.Common

/-! Scopes whose bindings are under the names of their targets. Binding a name keeps them so, and
what such a scope declares is in strictly increasing order, with every key among the names. -/

namespace Transpile

open Script

/-- The name that a piece carries. -/
def nameOf? (p : Piece) : Option String :=
  match p.value with
  | .ok v => Walk.keyOf v
  | .error _ => none

theorem nameOf?_of_value {p v : Piece} (h : p.value = .ok v) : nameOf? p = Walk.keyOf v := by
  rw [nameOf?, h]

theorem nameOf?_congr {p q : Piece} (h : q.value = p.value) : nameOf? q = nameOf? p := by
  rw [nameOf?, h, nameOf?]

/-! Maps -/

section

variable {m : Bindings} {key : Option String} {p : Piece}

theorem hasKey_iff : m.hasKey key = true ↔ key ∈ m.map (·.key) := by
  simp [Bindings.hasKey]

theorem mem_keys {n : String} : n ∈ m.keys ↔ m.hasKey (some n) = true := by
  simp [Bindings.keys, hasKey_iff]

theorem mem_put {b : Binding} (h : b ∈ m.put key p) : b ∈ m ∨ b = ⟨key, p⟩ := by
  unfold Bindings.put at h
  split_ifs at h
  · obtain ⟨c, hc, rfl⟩ := List.mem_map.1 h
    split_ifs
    · exact .inr rfl
    · exact .inl hc
  · simpa using h

theorem map_key_put (m : Bindings) (key : Option String) (p : Piece) : (m.put key p).map (·.key) =
    if m.hasKey key = true then m.map (·.key) else m.map (·.key) ++ [key] := by
  unfold Bindings.put
  split_ifs
  · rw [List.map_map]
    refine List.map_congr_left fun b _ => ?_
    by_cases hb : b.key = key <;> simp [hb]
  · simp

theorem hasKey_put {key' : Option String} (h : m.hasKey key = true ∨ key = key') :
    (m.put key' p).hasKey key = true := by
  rw [hasKey_iff, map_key_put]
  split_ifs with hin
  · rcases h with h | rfl
    · exact hasKey_iff.1 h
    · exact hasKey_iff.1 hin
  · rcases h with h | rfl
    · exact List.mem_append_left _ (hasKey_iff.1 h)
    · simp

theorem hasKey_put_iff {key' : Option String} :
    (m.put key' p).hasKey key = true ↔ m.hasKey key = true ∨ key = key' := by
  refine ⟨fun h => ?_, hasKey_put⟩
  rw [hasKey_iff, map_key_put] at h
  split_ifs at h
  · exact .inl (hasKey_iff.2 h)
  · rcases List.mem_append.1 h with h | h
    · exact .inl (hasKey_iff.2 h)
    · exact .inr (List.mem_singleton.1 h)

theorem hasKey_erase {k : String} :
    (m.erase k).hasKey key = true ↔ m.hasKey key = true ∧ key ≠ some k := by
  simp only [Bindings.hasKey, Bindings.erase, List.any_filter, List.any_eq_true, Bool.and_eq_true,
    decide_eq_true_iff]
  constructor
  · rintro ⟨b, hb, hne, rfl⟩
    exact ⟨⟨b, hb, rfl⟩, hne⟩
  · rintro ⟨⟨b, hb, rfl⟩, hne⟩
    exact ⟨b, hb, hne, rfl⟩

/-- Every binding is under the name of its target, and no key is bound twice. -/
structure Tidy (m : Bindings) : Prop where
  named : ∀ b ∈ m, nameOf? b.target = b.key
  nodup : (m.map (·.key)).Nodup

theorem tidy_nil : Tidy [] := ⟨by simp, by simp⟩

theorem Tidy.put (h : Tidy m) (hp : nameOf? p = key) : Tidy (m.put key p) where
  named := by
    intro b hb
    rcases mem_put hb with hb | rfl
    · exact h.named b hb
    · exact hp
  nodup := by
    rw [map_key_put]
    split_ifs with hin
    · exact h.nodup
    · rw [List.nodup_append]
      refine ⟨h.nodup, by simp, fun a ha b hb => ?_⟩
      rintro rfl
      rw [List.mem_singleton.1 hb] at ha
      exact hin (hasKey_iff.2 ha)

theorem Tidy.sublist {m' : Bindings} (h : Tidy m) (hs : m'.Sublist m) : Tidy m' :=
  ⟨fun b hb => h.named b (hs.subset hb), h.nodup.sublist (hs.map _)⟩

theorem Tidy.append {m' : Bindings} (h : Tidy m) (h' : Tidy m')
    (hdisjoint : ∀ b ∈ m, m'.hasKey b.key = false) : Tidy (m ++ m') where
  named := by
    intro b hb
    rcases List.mem_append.1 hb with hb | hb
    · exact h.named b hb
    · exact h'.named b hb
  nodup := by
    rw [List.map_append, List.nodup_append]
    refine ⟨h.nodup, h'.nodup, fun a ha b hb => ?_⟩
    rintro rfl
    obtain ⟨c, hc, rfl⟩ := List.mem_map.1 ha
    rw [← hasKey_iff, hdisjoint c hc] at hb
    cases hb

theorem Tidy.names (h : Tidy m) : (m.map (·.target)).filterMap nameOf? = m.keys := by
  rw [List.filterMap_map]
  exact List.filterMap_congr h.named

theorem Tidy.nodup_keys (h : Tidy m) : m.keys.Nodup := by
  have hkeys : m.keys = (m.map (·.key)).filterMap id := by
    rw [List.filterMap_map]
    rfl
  rw [hkeys]
  refine h.nodup.filterMap fun a b k ha hb => ?_
  exact (Option.mem_def.1 ha).trans (Option.mem_def.1 hb).symm

end

/-! Scopes that grow -/

/-- Names may have been bound in the innermost map. -/
structure Grown (a b : Scope) : Prop where
  outer : b.outer = a.outer
  special : b.special = a.special
  keys : ∀ key, a.inner.hasKey key = true → b.inner.hasKey key = true
  tidy : Tidy a.inner → Tidy b.inner

theorem Grown.refl (a : Scope) : Grown a a := ⟨rfl, rfl, fun _ => id, id⟩

theorem Grown.trans {a b c : Scope} (h1 : Grown a b) (h2 : Grown b c) : Grown a c :=
  ⟨h2.outer.trans h1.outer, h2.special.trans h1.special, fun key h => h2.keys key (h1.keys key h),
    fun h => h2.tidy (h1.tidy h)⟩

theorem grown_set (a : Scope) {key : Option String} {p : Piece} (hp : nameOf? p = key) :
    Grown a (a.set key p).2 :=
  ⟨rfl, rfl, fun _ h => hasKey_put (.inl h), fun h => h.put hp⟩

theorem hasKey_maps {sc : Scope} {key : Option String} :
    sc.hasKey key = true ↔ sc.inner.hasKey key = true ∨ ∃ m ∈ sc.outer, m.hasKey key = true := by
  simp [Scope.hasKey, Scope.maps]

theorem Grown.hasKey {a b : Scope} (h : Grown a b) {key : Option String}
    (ha : a.hasKey key = true) : b.hasKey key = true := by
  rw [hasKey_maps] at ha ⊢
  rcases ha with ha | ha
  · exact .inl (h.keys key ha)
  · right
    rwa [h.outer]

/-- Leaving a scope forgets what has grown in it. -/
theorem Grown.leave {a b : Scope} (h : Grown a b) : b.leave = a.leave := by
  unfold Scope.leave
  rw [h.outer, h.special]

/-! What a scope declares -/

theorem nameLE_iff {a b : String} : nameLE a b = true ↔ a ≤ b := by
  simp only [nameLE, Bool.not_eq_true', decide_eq_false_iff_not, String.not_lt]

/-- Names in order of which none stands twice. -/
theorem pairwise_lt_of_sorted {ns : List String} (h : ns.Pairwise fun a b => nameLE a b = true)
    (hn : ns.Nodup) : ns.Pairwise (· < ·) := by
  refine (h.and hn).imp fun ⟨hle, hne⟩ => ?_
  by_contra hlt
  exact hne (String.le_antisymm (nameLE_iff.1 hle) (String.not_lt.1 hlt))

theorem named_ok {ps : List Piece} {es : List (String × Piece)} (h : Scope.named ps = .ok es) :
    es.map (·.2) = ps ∧ ∀ e ∈ es, nameOf? e.2 = some e.1 := by
  induction ps generalizing es with
  | nil =>
    cases h
    simp
  | cons p ps ih =>
    rw [Scope.named, List.mapM_cons] at h
    split at h
    · next s hp =>
      cases hps : Scope.named ps with
      | error c =>
        rw [Scope.named] at hps
        rw [hps] at h
        cases h
      | ok es' =>
        obtain ⟨hsnd, hfst⟩ := ih hps
        rw [Scope.named] at hps
        rw [hps] at h
        cases h
        refine ⟨by simp [hsnd], fun e he => ?_⟩
        rcases List.mem_cons.1 he with rfl | he
        · exact nameOf?_of_value hp
        · exact hfst e he
    · cases h
    · cases h

theorem filterMap_named {es : List (String × Piece)} (h : ∀ e ∈ es, nameOf? e.2 = some e.1) :
    (es.map (·.2)).filterMap nameOf? = es.map (·.1) := by
  rw [List.filterMap_map, ← List.filterMap_eq_map]
  exact List.filterMap_congr h

/-- Sorting keeps the pieces, and puts names of which none stands twice in increasing order. -/
theorem sorted_ok {ps qs : List Piece} (h : Scope.sorted ps = .ok qs) : qs.Perm ps ∧
    ((ps.filterMap nameOf?).Nodup → (qs.filterMap nameOf?).Pairwise (· < ·)) := by
  unfold Scope.sorted at h
  split at h
  · next p =>
    cases hp : p.value with
    | error c =>
      rw [hp] at h
      cases h
    | ok v =>
      rw [hp] at h
      cases h
      refine ⟨.refl _, fun _ => ?_⟩
      cases hn : nameOf? p <;> simp [hn]
  · cases hes : Scope.named ps with
    | error c =>
      rw [hes] at h
      cases h
    | ok es =>
      rw [hes] at h
      cases h
      obtain ⟨rfl, hnames⟩ := named_ok hes
      set le := fun a b : String × Piece => nameLE a.1 b.1
      have hperm : (es.mergeSort le).Perm es := List.mergeSort_perm es le
      refine ⟨hperm.map _, fun hnodup => ?_⟩
      rw [filterMap_named hnames] at hnodup
      rw [filterMap_named fun e he => hnames e (hperm.mem_iff.1 he)]
      refine pairwise_lt_of_sorted (List.pairwise_map.2 ?_) ((hperm.map _).nodup_iff.2 hnodup)
      refine List.pairwise_mergeSort (fun a b c hab hbc => ?_) (fun a b => ?_) es
      · exact nameLE_iff.2 (String.le_trans (nameLE_iff.1 hab) (nameLE_iff.1 hbc))
      · rw [Bool.or_eq_true, nameLE_iff, nameLE_iff]
        exact String.le_total _ _

example : (Scope.sorted [Walk.word "b", Walk.word "a"]).map (·.filterMap nameOf?) =
    .ok ["a", "b"] := by cbv

/-- The bindings that a scope declares: its own, at the root with the special forms. -/
def Scope.declarable (sc : Scope) (root : Bool) : Bindings :=
  (if root then sc.special else []) ++ sc.inner

theorem hasKey_declarable {sc : Scope} {root : Bool} {key : Option String} :
    (sc.declarable root).hasKey key = true ↔
      root = true ∧ sc.special.hasKey key = true ∨ sc.inner.hasKey key = true := by
  cases root <;> simp [Scope.declarable, Bindings.hasKey]

/-- Setting a special form succeeds if no special form has the key of a visible name. -/
theorem hidden_of_setSpecial {sc : Scope} {key : Option String} {p : Piece}
    (hok : (sc.setSpecial key p).1 = .ok ()) :
    ∀ b ∈ sc.special.put key p, sc.hasKey b.key = false := by
  simp only [Scope.setSpecial, Scope.check] at hok
  split_ifs at hok with hvalid
  intro b hb
  have hnone := List.all_eq_true.1 hvalid b hb
  rw [Bool.not_eq_true'] at hnone
  exact hnone

theorem hasKey_of_setSpecial {sc : Scope} {key : Option String} {p : Piece}
    (hok : (sc.setSpecial key p).1 = .ok ()) : sc.hasKey key = false := by
  have hput : (sc.special.put key p).hasKey key = true := hasKey_put (.inr rfl)
  obtain ⟨b, hb, hkey⟩ := List.any_eq_true.1 hput
  rw [← of_decide_eq_true hkey]
  exact hidden_of_setSpecial hok b hb

/-- A special form that is set shares its key with no visible name. -/
theorem tidy_setSpecial {sc : Scope} {key : Option String} {p : Piece} (hp : nameOf? p = key)
    (hok : (sc.setSpecial key p).1 = .ok ()) (ht : Tidy (sc.declarable true)) :
    Tidy ((sc.setSpecial key p).2.declarable true) := by
  have hspecial : Tidy sc.special := ht.sublist (List.sublist_append_left _ _)
  have hinner : Tidy sc.inner := ht.sublist (List.sublist_append_right _ _)
  refine (hspecial.put hp).append hinner fun b hb => ?_
  have hnone := hidden_of_setSpecial hok b hb
  simp only [← Bool.not_eq_true, hasKey_maps, not_or] at hnone
  change sc.inner.hasKey b.key = false
  simpa using hnone.1

theorem identifiers_ok {sc : Scope} {root : Bool} {ps : List Piece}
    (h : sc.identifiers root = .ok ps) (ht : Tidy (sc.declarable root)) :
    (ps.filterMap nameOf?).Pairwise (· < ·) ∧
      ∀ n, (sc.declarable root).hasKey (some n) = true → n ∈ ps.filterMap nameOf? := by
  have htargets : (if root then sc.special.map (·.target) else []) ++ sc.inner.map (·.target) =
      (sc.declarable root).map (·.target) := by
    cases root <;> simp [Scope.declarable]
  rw [Scope.identifiers, htargets] at h
  obtain ⟨hperm, hsorted⟩ := sorted_ok h
  rw [ht.names] at hsorted
  refine ⟨hsorted ht.nodup_keys, fun n hn => ?_⟩
  rw [(hperm.filterMap _).mem_iff, ht.names]
  exact mem_keys.2 hn

end Transpile
