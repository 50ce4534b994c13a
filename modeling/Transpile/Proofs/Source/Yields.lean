import Transpile.Source.Grammar.Basic
import Mathlib.Tactic.Common

/-! What a reader can give. A property that holds of the values of the parts of a reader, and is kept
where they are put together, holds of whatever the reader gives. Readers take tokens from the left,
so what holds of all tokens holds of those that are left. -/

namespace Transpile.Source

variable {α β : Type} {G : Tok → Prop}

/-- From tokens with the one property the reader gives a value with the other one, and leaves tokens
with the first. -/
def Yields (G : Tok → Prop) (P : α → Prop) (r : Reader α) : Prop :=
  ∀ ts a rest, (∀ t ∈ ts, G t.tok) → r ts = some (a, rest) → P a ∧ ∀ t ∈ rest, G t.tok

section

variable {P : α → Prop} {Q : β → Prop}

theorem Yields.imp {P' : α → Prop} {r : Reader α} (h : Yields G P r) (hP : ∀ a, P a → P' a) :
    Yields G P' r := by
  intro ts a rest hts hr
  obtain ⟨ha, hrest⟩ := h ts a rest hts hr
  exact ⟨hP a ha, hrest⟩

theorem yields_pure {a : α} (h : P a) : Yields G P (pure a : Reader α) := by
  intro ts b rest hts hr
  cases hr
  exact ⟨h, hts⟩

theorem yields_failure : Yields G P (failure : Reader α) := by
  intro ts a rest hts hr
  cases hr

theorem yields_bind {r : Reader α} {f : α → Reader β} (hr : Yields G P r)
    (hf : ∀ a, P a → Yields G Q (f a)) : Yields G Q (r >>= f) := by
  intro ts b rest hts h
  obtain ⟨⟨a, ts'⟩, h1, h2⟩ := Option.bind_eq_some_iff.1 h
  obtain ⟨ha, hts'⟩ := hr ts a ts' hts h1
  exact hf a ha ts' b rest hts' h2

theorem yields_orElse {r r' : Reader α} (hr : Yields G P r) (hr' : Yields G P r') :
    Yields G P (r <|> r') := by
  intro ts a rest hts h
  change (r ts).orElse (fun _ => r' ts) = _ at h
  cases h1 : r ts with
  | none =>
    rw [h1] at h
    exact hr' ts a rest hts h
  | some b =>
    rw [h1] at h
    cases h
    exact hr ts a rest hts h1

theorem yields_seqRight {r : Reader α} {r' : Reader β} (hr : Yields G P r) (h : Yields G Q r') :
    Yields G Q (r *> r') := by
  rw [seqRight_eq_bind]
  exact yields_bind hr fun _ _ => h

theorem yields_seqLeft {r : Reader α} {r' : Reader β} (h : Yields G P r) (hr' : Yields G Q r') :
    Yields G P (r <* r') := by
  rw [seqLeft_eq_bind]
  exact yields_bind h fun _ ha => yields_bind hr' fun _ _ => yields_pure ha

theorem yields_map {f : α → β} {r : Reader α} (h : Yields G (fun a => Q (f a)) r) :
    Yields G Q (f <$> r) := by
  rw [map_eq_pure_bind]
  exact yields_bind h fun _ ha => yields_pure ha

theorem yields_lift {x : Option α} (h : ∀ a, x = some a → P a) :
    Yields G P (liftM x : Reader α) := by
  intro ts a rest hts hr
  obtain ⟨b, hb, hr⟩ := Option.bind_eq_some_iff.1 hr
  cases hr
  exact ⟨h a hb, hts⟩

theorem yields_ite {c : Prop} [Decidable c] {r r' : Reader α} (h : Yields G P r)
    (h' : Yields G P r') : Yields G P (if c then r else r') := by
  split_ifs
  · exact h
  · exact h'

theorem yields_optional {r : Reader α} (h : Yields G P r) :
    Yields G (fun o => ∀ a, o = some a → P a) (optional r) := by
  refine yields_orElse (yields_map (h.imp fun a ha b hb => ?_)) (yields_pure nofun)
  cases hb
  exact ha

end

namespace Reader

variable {P : α → Prop}

theorem yields_next : Yields G (fun t => G t.tok) next := by
  intro ts t rest hts h
  cases ts with
  | nil => cases h
  | cons u ts =>
    cases h
    exact List.forall_mem_cons.1 hts

theorem yields_peek? (n : Nat) : Yields G (fun o => ∀ t, o = some t → G t) (peek? n) := by
  intro ts o rest hts h
  cases h
  refine ⟨fun t ht => ?_, hts⟩
  obtain ⟨u, hu, rfl⟩ := Option.map_eq_some_iff.1 ht
  exact hts u (List.mem_of_getElem? hu)

theorem yields_accept (t : Tok) : Yields G (fun _ => True) (accept t) :=
  yields_bind yields_next fun _ _ => yields_ite yields_failure (yields_pure trivial)

theorem yields_op (s : String) : Yields G (fun _ => True) (op s) := yields_accept _

theorem yields_keyword (s : String) : Yields G (fun _ => True) (keyword s) := yields_accept _

theorem yields_name : Yields G (fun s => G (.name s)) name := by
  refine yields_bind yields_next fun t ht => ?_
  split
  · next s hs => exact yields_pure (hs ▸ ht)
  · exact yields_failure

theorem yields_peekOp (s : String) : Yields G (fun _ => True) (peekOp s) :=
  yields_bind (yields_peek? 0) fun _ _ => yields_pure trivial

theorem yields_peekKeyword (s : String) : Yields G (fun _ => True) (peekKeyword s) :=
  yields_bind (yields_peek? 0) fun _ _ => yields_pure trivial

theorem yields_choose (table : List (String × α)) : Yields G (fun _ => True) (choose table) := by
  refine yields_bind yields_next fun t _ => ?_
  split
  · exact yields_lift fun _ _ => trivial
  · exact yields_failure

theorem yields_after? {r : Reader α} (h : Yields G P r) (t : Tok) :
    Yields G (fun o => ∀ a, o = some a → P a) (after? t r) :=
  yields_optional (yields_seqRight (yields_accept t) h)

theorem yields_many {r : Reader α} (h : Yields G P r) :
    Yields G (fun as => ∀ a ∈ as, P a) (many r) := by
  intro ts as rest hts hr
  change manyFrom r ts = some (as, rest) at hr
  fun_induction manyFrom r ts generalizing as rest with
  | case1 ts hnone =>
    cases hr
    exact ⟨by simp, hts⟩
  | case2 ts a next hsome hlt ih =>
    obtain ⟨⟨bs, last⟩, hbs, hr⟩ := Option.bind_eq_some_iff.1 hr
    cases hr
    obtain ⟨ha, hnext⟩ := h ts a next hts hsome
    obtain ⟨hbs, hrest⟩ := ih bs rest hnext hbs
    exact ⟨List.forall_mem_cons.2 ⟨ha, hbs⟩, hrest⟩
  | case3 => cases hr

theorem yields_many1 {r : Reader α} (h : Yields G P r) :
    Yields G (fun as => ∀ a ∈ as, P a) (many1 r) :=
  yields_bind h fun _ ha => yields_bind (yields_many h) fun _ has =>
    yields_pure (List.forall_mem_cons.2 ⟨ha, has⟩)

theorem yields_afterComma {r : Reader α} (h : Yields G P r) :
    Yields G (fun as => ∀ a ∈ as, P a) (many (op "," *> r)) :=
  yields_many (yields_seqRight (yields_op ",") h)

theorem yields_comma? : Yields G (fun _ => True) comma? :=
  yields_bind (yields_optional (yields_op ",")) fun _ _ => yields_pure trivial

theorem yields_commas {r : Reader α} (h : Yields G P r) :
    Yields G (fun as => ∀ a ∈ as, P a) (commas r) :=
  yields_bind h fun _ ha => yields_bind (yields_afterComma h) fun _ has =>
    yields_pure (List.forall_mem_cons.2 ⟨ha, has⟩)

theorem yields_discard {r : Reader α} (h : Yields G P r) :
    Yields G (fun _ => True) (discard r) :=
  yields_map (h.imp fun _ _ => trivial)

theorem yields_commasEnd {r : Reader α} (h : Yields G P r) :
    Yields G (fun as => ∀ a ∈ as, P a) (commasEnd r) :=
  yields_bind (yields_commas h) fun _ has =>
    yields_bind (yields_discard yields_comma?) fun _ _ => yields_pure has

theorem yields_tupleOr {tuple : List α → α} (htuple : ∀ as, (∀ a ∈ as, P a) → P (tuple as))
    {r : Reader α} (h : Yields G P r) : Yields G P (tupleOr tuple r) := by
  refine yields_bind h fun a ha => yields_bind (yields_afterComma h) fun as has => ?_
  refine yields_bind yields_comma? fun ended _ => yields_pure ?_
  split_ifs
  · exact ha
  · exact htuple _ (List.forall_mem_cons.2 ⟨ha, has⟩)

end Reader

end Transpile.Source
