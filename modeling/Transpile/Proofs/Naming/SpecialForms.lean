import Transpile.Proofs.Scope

/-! Special forms and names under any sequence of changes to a scope, failed ones included. A key that
is visible and a special form as well can only come from a set that was refused on it, and while there is
such a key every set is refused. Main statement: where no key is visible on which a set was refused, names
and special forms are apart, and a set is refused exactly if its key is on the other side. -/

namespace Transpile

open Script

/-- A change of a scope; a set makes a name or a special form. -/
inductive Change where
  | set (special : Bool) (key : Option String) (target : Piece)
  | unset (k : String)
  | enter
  | leave

namespace Scope

/-- Binds in the innermost map or among the special forms. -/
def write (s : Scope) (special : Bool) (key : Option String) (target : Piece) :
    Except Cause Unit × Scope :=
  if special then s.setSpecial key target else s.set key target

def apply (s : Scope) : Change → Except Cause Unit × Scope
  | .set special key target => s.write special key target
  | .unset k => s.unset k
  | .enter => (.ok (), s.enter)
  | .leave => (.ok (), s.leave)

/-- The scope after changes, of which some may have failed. -/
def after (s : Scope) : List Change → Scope
  | [] => s
  | c :: cs => (s.apply c).2.after cs

/-- The key of a set that is refused. -/
def refusedBy (s : Scope) : Change → List (Option String)
  | .set special key target =>
    match (s.write special key target).1 with
    | .ok _ => []
    | .error _ => [key]
  | _ => []

/-- The keys on which sets are refused in the course of changes. -/
def refused (s : Scope) : List Change → List (Option String)
  | [] => []
  | c :: cs => s.refusedBy c ++ (s.apply c).2.refused cs

/-- Whether the key is on the other side: a name for a special form, a special form for a name. -/
def isTaken (s : Scope) (special : Bool) (key : Option String) : Bool :=
  bif special then s.hasKey key else s.special.hasKey key

/-- The key is visible and a special form as well. -/
structure Clashes (s : Scope) (key : Option String) : Prop where
  visible : s.hasKey key = true
  special : s.special.hasKey key = true

/-! One set -/

section

variable {s : Scope} {special : Bool} {key key' : Option String} {target : Piece}

theorem isValid_iff : s.isValid = true ↔ ∀ key, ¬s.Clashes key := by
  rw [isValid, List.all_eq_true]
  constructor
  · intro h key hclash
    obtain ⟨b, hb, rfl⟩ := List.mem_map.1 (hasKey_iff.1 hclash.special)
    have hnone := h b hb
    rw [hclash.visible] at hnone
    cases hnone
  · intro h b hb
    rw [Bool.not_eq_true', ← Bool.not_eq_true]
    exact fun hvisible => h b.key ⟨hvisible, hasKey_iff.2 (List.mem_map_of_mem hb)⟩

theorem write_result (s : Scope) (special : Bool) (key : Option String) (target : Piece) :
    (s.write special key target).1 =
      if (s.write special key target).2.isValid then .ok () else .error .specialFormOverwritten := by
  cases special <;> rfl

/-- A set that succeeds leaves names and special forms apart. -/
theorem write_ok_iff : (s.write special key target).1 = .ok () ↔
    ∀ k, ¬(s.write special key target).2.Clashes k := by
  rw [write_result, ← isValid_iff]
  split_ifs with h <;> simp [h]

theorem write_error_iff : (s.write special key target).1 = .error .specialFormOverwritten ↔
    ∃ k, (s.write special key target).2.Clashes k := by
  rw [← not_iff_not, not_exists, ← write_ok_iff, write_result]
  split_ifs <;> simp

theorem hasKey_set : (s.set key target).2.hasKey key' = true ↔ s.hasKey key' = true ∨ key' = key := by
  simp only [hasKey_maps, set, check, hasKey_put_iff]
  exact or_right_comm

/-- A set brings in no clash but one of its own key, which is on the other side already. -/
theorem clashes_write : (s.write special key target).2.Clashes key' ↔ s.Clashes key' ∨
    key' = key ∧ s.isTaken special key' = true := by
  cases special with
  | false =>
    have hvisible : (s.write false key target).2.hasKey key' = true ↔ _ := hasKey_set
    constructor
    · intro h
      rcases hvisible.1 h.visible with hv | rfl
      · exact .inl ⟨hv, h.special⟩
      · exact .inr ⟨rfl, h.special⟩
    · rintro (h | ⟨rfl, h⟩)
      · exact ⟨hvisible.2 (.inl h.visible), h.special⟩
      · exact ⟨hvisible.2 (.inr rfl), h⟩
  | true =>
    have hspecial : (s.write true key target).2.special.hasKey key' = true ↔ _ := hasKey_put_iff
    constructor
    · intro h
      rcases hspecial.1 h.special with hs | rfl
      · exact .inl ⟨h.visible, hs⟩
      · exact .inr ⟨rfl, h.visible⟩
    · rintro (h | ⟨rfl, h⟩)
      · exact ⟨h.visible, hspecial.2 (.inl h.special)⟩
      · exact ⟨h, hspecial.2 (.inr rfl)⟩

/-- Where names and special forms are apart, a set is refused if its key is on the other side. -/
theorem write_of_apart (h : ∀ k, ¬s.Clashes k) (special : Bool) (key : Option String)
    (target : Piece) : (s.write special key target).1 =
      if s.isTaken special key then .error .specialFormOverwritten else .ok () := by
  split_ifs with htaken
  · exact write_error_iff.2 ⟨key, clashes_write.2 (.inr ⟨rfl, htaken⟩)⟩
  · refine write_ok_iff.2 fun k hclash => ?_
    rcases clashes_write.1 hclash with hk | ⟨rfl, hk⟩
    · exact h k hk
    · exact htaken hk

/-- While a key clashes, every set is refused. -/
theorem Clashes.refuses {k : Option String} (h : s.Clashes k) :
    (s.write special key target).1 = .error .specialFormOverwritten :=
  write_error_iff.2 ⟨k, clashes_write.2 (.inl h)⟩

end

/-! Runs of changes -/

section

variable {s : Scope} {key : Option String}

theorem hasKey_unset {k : String} (h : (s.unset k).2.hasKey key = true) : s.hasKey key = true := by
  unfold unset at h
  split_ifs at h
  · rw [hasKey_maps] at h ⊢
    exact h.imp_left fun h => (hasKey_erase.1 h).1
  · exact h

theorem hasKey_entered (h : s.enter.hasKey key = true) : s.hasKey key = true := by
  simpa [hasKey, enter, maps, Bindings.hasKey] using h

theorem hasKey_left (h : s.leave.hasKey key = true) : s.hasKey key = true := by
  unfold leave at h
  rw [hasKey_maps] at h ⊢
  split at h
  · next hnil => simp [Bindings.hasKey, hnil] at h
  · next m ms hcons =>
    right
    rw [hcons]
    rcases h with h | ⟨n, hn, h⟩
    · exact ⟨m, .head _, h⟩
    · exact ⟨n, .tail _ hn, h⟩

/-- A change brings in no clash but of a key on which a set is refused. -/
theorem clashes_apply {c : Change} (h : (s.apply c).2.Clashes key) :
    s.Clashes key ∨ key ∈ s.refusedBy c := by
  cases c with
  | set special key' target =>
    have hrefused : (s.write special key' target).1 = _ := write_error_iff.2 ⟨key, h⟩
    rcases clashes_write.1 h with h | ⟨rfl, -⟩
    · exact .inl h
    · right
      rw [refusedBy, hrefused]
      exact .head _
  | unset k =>
    refine .inl ⟨hasKey_unset h.visible, ?_⟩
    have hspecial := h.special
    simp only [apply, unset] at hspecial
    split_ifs at hspecial <;> exact hspecial
  | enter => exact .inl ⟨hasKey_entered h.visible, h.special⟩
  | leave =>
    refine .inl ⟨hasKey_left h.visible, ?_⟩
    have hspecial := h.special
    simp only [apply, leave] at hspecial
    split at hspecial <;> exact hspecial

theorem clashes_after {cs : List Change} (h : (s.after cs).Clashes key) :
    s.Clashes key ∨ key ∈ s.refused cs := by
  induction cs generalizing s with
  | nil => exact .inl h
  | cons c cs ih =>
    rw [refused, List.mem_append]
    rcases ih h with h | h
    · exact (clashes_apply h).imp_right .inl
    · exact .inr (.inr h)

/-- A special form stays one. -/
theorem special_apply (c : Change) (h : s.special.hasKey key = true) :
    (s.apply c).2.special.hasKey key = true := by
  cases c with
  | set special key' target =>
    cases special
    · exact h
    · exact hasKey_put (.inl h)
  | unset k =>
    simp only [apply, unset]
    split_ifs <;> exact h
  | enter => exact h
  | leave =>
    simp only [apply, leave]
    split <;> exact h

theorem special_after (cs : List Change) (h : s.special.hasKey key = true) :
    (s.after cs).special.hasKey key = true := by
  induction cs generalizing s with
  | nil => exact h
  | cons c cs ih => exact ih (special_apply c h)

/-- From a scope with a key on both sides on, every set is refused while the key is visible. -/
theorem refuses_after {s : Scope} {key : Option String} (h : s.Clashes key) (cs : List Change)
    (hvisible : (s.after cs).hasKey key = true) (special : Bool) (key' : Option String)
    (target : Piece) : ((s.after cs).write special key' target).1 = .error .specialFormOverwritten :=
  Clashes.refuses ⟨hvisible, special_after cs h.special⟩

end

/-- Whatever changes are made to an empty scope, with sets that are refused among them: as long as no key
on which a set was refused is visible, so in particular as long as no set was refused, no key is visible
and a special form as well, and a set is refused exactly if its key is a special form, or, for a special
form, exactly if its key is visible. After a set that was refused from there, or that left its key on both
sides in any case, every set of any key is refused while the key of that set is visible. -/
theorem special_forms_apart (cs : List Change) :
    let s := ({} : Scope).after cs
    ((∀ key ∈ ({} : Scope).refused cs, s.hasKey key = false) →
      (∀ key, ¬(s.hasKey key = true ∧ s.special.hasKey key = true)) ∧
      ∀ key target,
        (s.set key target).1 =
          (if s.special.hasKey key then .error .specialFormOverwritten else .ok ()) ∧
        (s.setSpecial key target).1 =
          (if s.hasKey key then .error .specialFormOverwritten else .ok ())) ∧
    ∀ special key target, let s' := (s.write special key target).2
      (s.write special key target).1 = .error .specialFormOverwritten →
      (∀ k ∈ ({} : Scope).refused cs, s.hasKey k = false) ∨
        s'.hasKey key = true ∧ s'.special.hasKey key = true →
      ∀ later, (s'.after later).hasKey key = true →
        ∀ special' key' target', ((s'.after later).write special' key' target').1 =
          .error .specialFormOverwritten := by
  intro s
  have hapart (h : ∀ key ∈ ({} : Scope).refused cs, s.hasKey key = false) (key : Option String) :
      ¬s.Clashes key := by
    intro hclash
    rcases clashes_after hclash with hstart | hrefused
    · cases hstart.visible
    · have hhidden := h key hrefused
      rw [hclash.visible] at hhidden
      cases hhidden
  refine ⟨fun h => ⟨fun key hboth => hapart h key ⟨hboth.1, hboth.2⟩, fun key target => ?_⟩, ?_⟩
  · exact ⟨write_of_apart (hapart h) false key target, write_of_apart (hapart h) true key target⟩
  · intro special key target s' herror hcase later hvisible special' key' target'
    refine refuses_after ?_ later hvisible special' key' target'
    rcases hcase with h | ⟨hkey, hspecial⟩
    · obtain ⟨k, hclash⟩ := write_error_iff.1 herror
      rcases clashes_write.1 hclash with hk | ⟨rfl, -⟩
      · exact absurd hk (hapart h k)
      · exact hclash
    · exact ⟨hkey, hspecial⟩

/-- A special form and a name, and a scope within, from which the name cannot be taken out. -/
def formAndName : List Change :=
  [.set true (some "g") (Walk.word "g"), .set false (some "a") (Walk.word "a"), .enter, .unset "a"]

theorem formAndName_apart :
    ({} : Scope).refused formAndName = [] ∧
    (let s := ({} : Scope).after formAndName
    (s.set (some "g") (Walk.word "g")).1 = .error .specialFormOverwritten ∧
    (s.setSpecial (some "a") (Walk.word "a")).1 = .error .specialFormOverwritten ∧
    let s' := ((s.write true (some "a") (Walk.word "a")).2.after [.leave, .enter])
    s'.hasKey (some "a") = true ∧ ∀ special key target,
      (s'.write special key target).1 = .error .specialFormOverwritten) := by
  have hnone : ({} : Scope).refused formAndName = [] := by decide +kernel
  have hhidden : ∀ key ∈ ({} : Scope).refused formAndName,
      (({} : Scope).after formAndName).hasKey key = false := by
    rw [hnone]
    simp
  obtain ⟨hquiet, hrefused⟩ := special_forms_apart formAndName
  have hsets := (hquiet hhidden).2
  refine ⟨hnone, (hsets _ _).1, (hsets _ _).2, by decide +kernel, ?_⟩
  exact hrefused true _ _ (by decide +kernel) (.inl hhidden) [.leave, .enter] (by decide +kernel)

/-- A set can be refused for a key other than its own. When that one is gone sets go through again, with
the key of the refused set still visible. -/
theorem set_beside_refused_key :
    let s := ({} : Scope).after
      [.set true (some "g") (Walk.word "g"), .set false (some "g") (Walk.word "g")]
    let s' := (s.write false (some "j") (Walk.word "j")).2
    (s.write false (some "j") (Walk.word "j")).1 = .error .specialFormOverwritten ∧
    s'.hasKey (some "j") = true ∧
    (s'.after [.unset "g"]).hasKey (some "j") = true ∧
    ((s'.after [.unset "g"]).write false (some "m") (Walk.word "m")).1 = .ok () := by
  decide +kernel

end Scope

end Transpile
