import Transpile.Number.Literal
import Transpile.Proofs.Camel
import Transpile.Text.OneForm
import Transpile.Text.Quoted

/-! Texts without line breaks: the one form of a name, numbers as they are shown, and quoted text.
For names this rests on the tables: no entry but a number of variants is the code of a line break. -/

namespace Transpile

theorem break_notMem_toString (n : Nat) : '\n' ∉ (toString n).toList := by
  rw [Nat.toString_eq_repr, Nat.toList_repr]
  intro h
  exact absurd (Nat.isDigit_of_mem_toDigits (by decide) (by decide) h) (by decide)

theorem break_notMem_join {ss : List String} (h : ∀ s ∈ ss, '\n' ∉ s.toList) :
    '\n' ∉ (String.join ss).toList := by
  simpa [String.toList_join] using h

theorem break_notMem_intercalate {sep : String} {ss : List String} (hsep : '\n' ∉ sep.toList)
    (hss : ∀ s ∈ ss, '\n' ∉ s.toList) : '\n' ∉ (sep.intercalate ss).toList := by
  induction ss with
  | nil => simp
  | cons s ss ih =>
    cases ss with
    | nil => simpa using hss
    | cons t ss =>
      rw [String.intercalate_cons_cons]
      simpa [hsep, hss s (by simp)] using ih fun t ht => hss t (by simp [ht])

namespace Text

/-! Names -/

theorem mem_of_mem_entriesFrom {n : Nat} {entry ns e : List Nat} (he : e ∈ entriesFrom entry ns)
    (hn : n ∈ e) : n ∈ entry ∨ n ∈ ns := by
  induction ns generalizing entry with
  | nil => cases he
  | cons m ns ih =>
    simp only [entriesFrom] at he
    split_ifs at he with hm
    · rcases List.mem_cons.1 he with rfl | he
      · exact .inl hn
      · rcases ih he with h | h
        · cases h
        · exact .inr (List.mem_cons_of_mem _ h)
    · rcases ih he with h | h
      · rcases List.mem_append.1 h with h | h
        · exact .inl h
        · cases List.mem_singleton.1 h
          exact .inr List.mem_cons_self
      · exact .inr (List.mem_cons_of_mem _ h)

/-- The lines of a table hold no field with the code of a line break. -/
def hasNoBreak (lines : List Nat) : Bool := lines.all fun line => (fieldsOf line).all (· != 10)

theorem ne_of_hasNoBreak {lines : List Nat} (h : hasNoBreak lines = true) {e : List Nat}
    (he : e ∈ tableEntries lines) {n : Nat} (hn : n ∈ e) : n ≠ 10 := by
  obtain ⟨line, hline, he⟩ := List.mem_flatMap.1 he
  have hfield : n ∈ fieldsOf line := (mem_of_mem_entriesFrom he hn).resolve_left (by simp)
  simpa using List.all_eq_true.1 (List.all_eq_true.1 h line hline) n hfield

theorem hasNoBreak_variantLines : hasNoBreak variantLines = true := by decide +kernel

theorem hasNoBreak_joinLines : hasNoBreak joinLines = true := by decide +kernel

theorem variantRuns_letters : ∀ e ∈ variantRuns, ∀ n ∈ e.drop 2, 10 < n := by decide +kernel

theorem mem_getD {m : Nat} {found : Option (List Nat)} {ms : List Nat} (h : m ∈ found.getD ms) :
    m ∈ ms ∨ ∃ ns, found = some ns ∧ m ∈ ns := by
  cases found with
  | none => exact .inl h
  | some ns => exact .inr ⟨ns, rfl, h⟩

theorem ne_of_mem_expand {n m : Nat} (hn : n ≠ 10) (hm : m ∈ expand n) : m ≠ 10 := by
  unfold expand at hm
  split_ifs at hm with hascii
  · rw [List.mem_singleton.1 hm]
    exact hn
  · rcases mem_getD hm with hm | ⟨ns, hfound, hm⟩
    · rw [List.mem_singleton.1 hm]
      exact hn
    rw [Option.orElse_eq_orElse, Option.orElse_eq_or, Option.or_eq_some_iff] at hfound
    rcases hfound with hrun | ⟨-, hentry⟩
    · obtain ⟨e, he, hns⟩ := List.exists_of_findSome?_eq_some hrun
      split at hns
      · next first count letter =>
        split_ifs at hns
        have hletter := variantRuns_letters _ he letter (by simp)
        rw [← Option.some.inj hns, List.mem_singleton] at hm
        omega
      · cases hns
    · obtain ⟨e, he, hns⟩ := List.exists_of_findSome?_eq_some hentry
      split at hns
      · split_ifs at hns
        rw [← Option.some.inj hns] at hm
        exact ne_of_hasNoBreak hasNoBreak_variantLines he (List.mem_cons_of_mem _ hm)
      · cases hns

theorem mem_insertMark {n m : Nat} {ms : List Nat} (h : m ∈ insertMark n ms) : m = n ∨ m ∈ ms := by
  induction ms with
  | nil => exact .inl (List.mem_singleton.1 h)
  | cons k ms ih =>
    simp only [insertMark] at h
    split_ifs at h
    · rcases List.mem_cons.1 h with rfl | h
      · exact .inr List.mem_cons_self
      · exact (ih h).imp_right (List.mem_cons_of_mem _)
    · exact List.mem_cons.1 h

theorem mem_of_mem_orderMarks {m : Nat} {ns : List Nat} (h : m ∈ orderMarks ns) : m ∈ ns := by
  have hfold : ∀ done, m ∈ ns.foldl (fun done n => insertMark n done) done → m ∈ done ∨ m ∈ ns := by
    clear h
    induction ns with
    | nil => exact fun done h => .inl h
    | cons n ns ih =>
      intro done h
      rcases ih _ h with h | h
      · rcases mem_insertMark h with rfl | h
        · exact .inr List.mem_cons_self
        · exact .inl h
      · exact .inr (List.mem_cons_of_mem _ h)
  exact (hfold [] (List.mem_reverse.1 h)).resolve_left (by simp)

theorem ne_of_join? {a b z : Nat} (h : join? a b = some z) : z ≠ 10 := by
  unfold join? at h
  rw [Option.orElse_eq_orElse, Option.orElse_eq_or, Option.or_eq_some_iff] at h
  rcases h with h | ⟨-, h⟩
  · unfold joinSyllable? at h
    split_ifs at h with hlead htail
    · have hz := Option.some.inj h
      omega
    · have hz := Option.some.inj h
      simp only [Bool.and_eq_true, decide_eq_true_eq] at htail
      omega
  · obtain ⟨e, he, hz⟩ := List.exists_of_findSome?_eq_some h
    split at hz
    · split_ifs at hz
      cases hz
      exact ne_of_hasNoBreak hasNoBreak_joinLines he (by simp)
    · cases hz

theorem break_notMem_joinFrom {letter last : Nat} {marks ns : List Nat} (hletter : letter ≠ 10)
    (hmarks : 10 ∉ marks) (hns : 10 ∉ ns) : 10 ∉ joinFrom letter marks last ns := by
  fun_induction joinFrom letter marks last ns with
  | case1 letter marks last => exact List.not_mem_cons_of_ne_of_not_mem hletter.symm hmarks
  | case2 letter marks last n ns k joined hjoin ih =>
    have h : join? letter n = some joined := by
      split_ifs at hjoin
      exact hjoin
    exact ih (ne_of_join? h) hmarks fun h => hns (List.mem_cons_of_mem _ h)
  | case3 letter marks last n ns k hjoin hk ih =>
    have hn : n ≠ 10 := fun h => hns (h ▸ List.mem_cons_self)
    intro h
    rcases List.mem_append.1 h with h | h
    · exact List.not_mem_cons_of_ne_of_not_mem hletter.symm hmarks h
    · exact ih hn (by simp) (fun h => hns (List.mem_cons_of_mem _ h)) h
  | case4 letter marks last n ns k hjoin hk ih =>
    have hn : n ≠ 10 := fun h => hns (h ▸ List.mem_cons_self)
    refine ih hletter (fun h => ?_) fun h => hns (List.mem_cons_of_mem _ h)
    rcases List.mem_append.1 h with h | h
    · exact hmarks h
    · exact hn (List.mem_singleton.1 h).symm

theorem break_notMem_joinMarks {ns : List Nat} (h : 10 ∉ ns) : 10 ∉ joinMarks ns := by
  induction ns with
  | nil => exact h
  | cons n ns ih =>
    have hn : n ≠ 10 := fun hn => h (hn ▸ List.mem_cons_self)
    have hns : 10 ∉ ns := fun hns => h (List.mem_cons_of_mem _ hns)
    simp only [joinMarks]
    split_ifs
    · exact break_notMem_joinFrom hn (by simp) hns
    · exact List.not_mem_cons_of_ne_of_not_mem hn.symm (ih hns)

/-- The one form of a name without line breaks has none. -/
theorem break_notMem_oneForm {cs : List Char} (h : '\n' ∉ cs) : '\n' ∉ oneForm cs := by
  unfold oneForm
  split_ifs
  · exact h
  · intro hmem
    obtain ⟨n, hn, hbreak⟩ := List.mem_map.1 hmem
    have hten : n = 10 := toNat_eq_of_ofNat hbreak (by decide)
    subst hten
    refine break_notMem_joinMarks (fun hm => ?_) hn
    obtain ⟨c, hc, hm⟩ := List.mem_flatMap.1 (mem_of_mem_orderMarks hm)
    refine ne_of_mem_expand (fun hc10 => h ?_) hm rfl
    have hc' : c = '\n' := Char.toNat_inj.1 hc10
    exact hc' ▸ hc

/-! Quoted text -/

theorem break_notMem_hexFixed (width n : Nat) : '\n' ∉ hexFixed width n := by
  have hdigit : ∀ k < 16, '\n' ≠ hexDigit k := by decide
  induction width generalizing n with
  | zero => exact List.not_mem_nil
  | succ width ih =>
    rw [hexFixed, List.mem_append, List.mem_singleton, not_or]
    exact ⟨ih _, hdigit _ (Nat.mod_lt _ (by decide))⟩

theorem break_notMem_escapeCode (n : Nat) : '\n' ∉ escapeCode n := by
  unfold escapeCode
  split_ifs <;>
  · rw [List.mem_cons, List.mem_cons, not_or, not_or]
    exact ⟨by decide, by decide, break_notMem_hexFixed _ n⟩

theorem break_notMem_escapeChar {quote : Char} (hq : '\n' ≠ quote) (c : Char) :
    '\n' ∉ escapeChar quote c := by
  unfold escapeChar
  split_ifs with hself htab hbreak hreturn hprint
  · have hc : '\n' ≠ c := by
      rw [Bool.or_eq_true, decide_eq_true_eq, decide_eq_true_eq] at hself
      rcases hself with rfl | rfl
      · exact hq
      · decide
    rw [List.mem_cons, List.mem_singleton, not_or]
    exact ⟨by decide, hc⟩
  · decide
  · decide
  · decide
  · rw [List.mem_singleton]
    exact Ne.symm hbreak
  · exact break_notMem_escapeCode _

theorem break_notMem_escapePoint {quote : Char} (hq : '\n' ≠ quote) (n : Nat) :
    '\n' ∉ escapePoint quote n := by
  unfold escapePoint
  split_ifs
  · exact break_notMem_escapeCode n
  · exact break_notMem_escapeChar hq _

/-- Quoted texts stand in one line. -/
theorem break_notMem_quoted (s : String) : '\n' ∉ (quoted s).toList := by
  have hq : '\n' ≠ quoteFor s.toList := by
    unfold quoteFor
    split_ifs <;> decide
  simp only [quoted, String.toList_ofList, List.cons_append, List.mem_cons, List.mem_append,
    List.mem_flatMap, List.not_mem_nil, or_false, not_or, not_exists, not_and]
  exact ⟨hq, fun n _ => break_notMem_escapePoint hq n, hq⟩

end Text

/-! Numbers -/

namespace Number

theorem break_notMem_digitsOf (n : Nat) : '\n' ∉ digitsOf n := fun h =>
  absurd (Nat.isDigit_of_mem_toDigits (by decide) (by decide) h) (by decide)

theorem break_notMem_exponentText (e : Int) : '\n' ∉ exponentText e := by
  have hds := break_notMem_digitsOf e.natAbs
  have hpadded : '\n' ∉ if (digitsOf e.natAbs).length < 2 then '0' :: digitsOf e.natAbs
      else digitsOf e.natAbs := by
    split_ifs
    · simpa using hds
    · exact hds
  unfold exponentText
  split_ifs <;> simpa using hpadded

theorem break_notMem_write (d : Decimal) (s : Style) : '\n' ∉ d.write s := by
  have hds := break_notMem_digitsOf d.digits
  have hexp := break_notMem_exponentText (d.point - 1)
  unfold Decimal.write
  dsimp only
  split_ifs
  · split <;> simp_all
  · simpa using hds
  · simpa using hds
  · simpa using hds
  · have htake : '\n' ∉ (digitsOf d.digits).take d.point.toNat := fun h => hds (List.mem_of_mem_take h)
    have hdrop : '\n' ∉ (digitsOf d.digits).drop d.point.toNat := fun h => hds (List.mem_of_mem_drop h)
    simpa using ⟨htake, hdrop⟩

theorem break_notMem_binary (s : Style) (b : Binary64) : '\n' ∉ (b.write s).toList := by
  unfold Binary64.write
  split
  · decide
  · split_ifs <;> decide
  · rw [String.toList_ofList]
    exact break_notMem_write _ _

theorem break_notMem_shown (literal : List Char) : '\n' ∉ (shown literal).toList := by
  unfold shown shownChars
  split
  case h_7 =>
    split_ifs
    · exact break_notMem_toString _
    · dsimp only
      split_ifs
      · simp [break_notMem_binary]
      · exact break_notMem_binary _ _
  all_goals exact break_notMem_toString _

end Number

end Transpile
