import Transpile.Text.Camel
import Mathlib

/-! Camel case brings in letters only: a mark of the ASCII block that stands in the camel case of a
name stands in the name. It takes the underscores out, and does no more to a name without them. Main
statement: which names of the ASCII block it leaves names. -/

namespace Transpile.Text

/-- A character of the ASCII block that is no letter. -/
structure IsMark (x : Char) : Prop where
  pos : 0 < x.toNat
  ascii : x.toNat < 0x80
  alpha : x.isAlpha = false

theorem isMark_break : IsMark '\n' := ⟨by decide, by decide, by decide⟩

theorem isMark_underscore : IsMark '_' := ⟨by decide, by decide, by decide⟩

theorem toNat_eq_of_ofNat {n : Nat} {x : Char} (h : Char.ofNat n = x) (hx : 0 < x.toNat) :
    n = x.toNat := by
  unfold Char.ofNat at h
  split at h
  · subst h
    rfl
  · subst h
    cases hx

/-- Each run has forms beyond the ASCII block, or is of one character whose form is a letter. -/
def CaseRuns.isLettered (rs : CaseRuns) : Bool :=
  rs.all fun r => 0x80 ≤ r.2.2.2 || r.1 == r.2.1 && (Char.ofNat r.2.2.2).isAlpha

section

variable {x c : Char}

theorem CaseRuns.eq_of_form {rs : CaseRuns} (hrs : rs.isLettered = true) (hx : IsMark x)
    (h : Char.ofNat (rs.form c.toNat) = x) : c = x := by
  have hn := toNat_eq_of_ofNat h hx.pos
  unfold CaseRuns.form at hn
  split at hn
  · next r hr =>
    have hmem := List.mem_of_find?_eq_some hr
    have hin := List.find?_some hr
    have hr' := List.all_eq_true.1 hrs r hmem
    have hascii := hx.ascii
    simp only [Bool.or_eq_true, Bool.and_eq_true, decide_eq_true_eq, beq_iff_eq] at hin hr'
    rcases hr' with hbig | ⟨hone, halpha⟩
    · omega
    · have hform : r.2.2.2 = x.toNat := by omega
      rw [hform, Char.ofNat_toNat, hx.alpha] at halpha
      cases halpha
  · rw [← Char.ofNat_toNat c, hn, Char.ofNat_toNat]

theorem ascii_induction {P : Char → Prop} (h : ∀ n < 0x80, P (Char.ofNat n)) (hc : c.toNat < 0x80) :
    P c :=
  Char.ofNat_toNat c ▸ h c.toNat hc

theorem eq_of_toLower (hc : c.toNat < 0x80) (halpha : c.toLower.isAlpha = false) : c.toLower = c :=
  ascii_induction (P := fun c => c.toLower.isAlpha = false → c.toLower = c) (by decide) hc halpha

theorem eq_of_toUpper (hc : c.toNat < 0x80) (halpha : c.toUpper.isAlpha = false) : c.toUpper = c :=
  ascii_induction (P := fun c => c.toUpper.isAlpha = false → c.toUpper = c) (by decide) hc halpha

theorem mem_lowerChar (hx : IsMark x) (h : x ∈ lowerChar c) : c = x := by
  have halpha := hx.alpha
  unfold lowerChar at h
  split_ifs at h with hc hi
  · obtain rfl := List.mem_singleton.1 h
    exact (eq_of_toLower hc halpha).symm
  · have hascii := hx.ascii
    simp only [List.mem_cons, List.not_mem_nil, or_false] at h
    rcases h with rfl | rfl
    · cases halpha
    · exact absurd hascii (by decide)
  · exact CaseRuns.eq_of_form (by decide +kernel) hx (List.mem_singleton.1 h).symm

theorem mem_titleChar (hx : IsMark x) (h : x ∈ titleChar c) : c = x := by
  have halpha := hx.alpha
  unfold titleChar at h
  split_ifs at h with hc
  · obtain rfl := List.mem_singleton.1 h
    exact (eq_of_toUpper hc halpha).symm
  · split at h
    · next ns hns =>
      -- the long forms are made of letters and of characters beyond the block
      have hlong : ∀ e ∈ titleLong, ∀ n ∈ e.2, 0x80 ≤ n ∨ (Char.ofNat n).isAlpha = true := by
        decide +kernel
      obtain ⟨n, hn, hnx⟩ := List.mem_map.1 h
      obtain ⟨before, after, heq, -⟩ := List.lookup_eq_some_iff.1 hns
      have hascii := hx.ascii
      have hval := toNat_eq_of_ofNat hnx hx.pos
      rcases hlong (c.toNat, ns) (by simp [heq]) n hn with hbig | hletter
      · omega
      · rw [hnx, halpha] at hletter
        cases hletter
    · exact CaseRuns.eq_of_form (by decide +kernel) hx (List.mem_singleton.1 h).symm

theorem mem_lowerIn (hx : IsMark x) {before after : List Char} (h : x ∈ lowerIn before c after) :
    c = x := by
  have hascii := hx.ascii
  unfold lowerIn at h
  split at h
  · have hval := toNat_eq_of_ofNat (List.mem_singleton.1 h).symm hx.pos
    split_ifs at hval <;> omega
  · exact mem_lowerChar hx h

theorem mem_titleFrom (hx : IsMark x) {before cs : List Char} (h : x ∈ titleFrom before cs) :
    x ∈ cs := by
  induction cs generalizing before with
  | nil => cases h
  | cons c cs ih =>
    rcases List.mem_append.1 h with h | h
    · have hc : c = x := by
        split_ifs at h
        · exact mem_lowerIn hx h
        · exact mem_titleChar hx h
      exact hc ▸ .head _
    · exact .tail _ (ih h)

theorem splitAt_eq_splitOn (sep : Char) (cs : List Char) : splitAt sep cs = cs.splitOn sep := by
  induction cs with
  | nil => rfl
  | cons c cs ih =>
    have hcons : (c :: cs).splitOn sep =
        if c = sep then [] :: cs.splitOn sep else (cs.splitOn sep).modifyHead (c :: ·) := by
      simpa only [List.splitOn_eq_splitOnP, beq_iff_eq] using
        List.splitOnP_cons_eq_if_modifyHead (p := (· == sep)) c cs
    rw [hcons, splitAt, ih]
    split_ifs
    · rfl
    · cases hcs : cs.splitOn sep with
      | nil => exact absurd hcs (List.splitOnP_ne_nil _ _)
      | cons p ps => rfl

theorem splitAt_ne_nil (sep : Char) (cs : List Char) : splitAt sep cs ≠ [] := by
  rw [splitAt_eq_splitOn]
  exact List.splitOnP_ne_nil _ _

theorem splitAt_append (sep : Char) (cs ds : List Char) :
    splitAt sep (cs ++ sep :: ds) = splitAt sep cs ++ splitAt sep ds := by
  simp only [splitAt_eq_splitOn]
  exact List.splitOnP_append_cons _ _ (beq_self_eq_true sep)

theorem mem_splitAt {sep : Char} {cs p : List Char} (hp : p ∈ splitAt sep cs) (h : x ∈ p) :
    x ∈ cs := by
  induction cs generalizing p with
  | nil => simp_all [splitAt]
  | cons c cs ih =>
    unfold splitAt at hp
    split_ifs at hp
    · rcases List.mem_cons.1 hp with rfl | hp
      · cases h
      · exact .tail _ (ih hp h)
    · split at hp
      · next hnil =>
        obtain rfl := List.mem_singleton.1 hp
        exact List.mem_singleton.1 h ▸ .head _
      · next q qs hq =>
        rcases List.mem_cons.1 hp with rfl | hp
        · rcases List.mem_cons.1 h with rfl | h
          · exact .head _
          · exact .tail _ (ih (hq ▸ .head _) h)
        · exact .tail _ (ih (hq ▸ .tail _ hp) h)

/-- Camel case brings in no mark. -/
theorem mem_camel (hx : IsMark x) {s : String} (h : x ∈ (camel s).toList) : x ∈ s.toList := by
  rw [camel, String.toList_ofList, camelChars] at h
  split at h
  · cases h
  · next p ps hps =>
    rcases List.mem_append.1 h with h | h
    · have hp : p ∈ splitAt '_' s.toList := by simp [hps]
      exact mem_splitAt hp h
    · obtain ⟨q, hq, h⟩ := List.mem_flatMap.1 h
      have hq' : q ∈ splitAt '_' s.toList := by simp [hps, hq]
      exact mem_splitAt hq' (mem_titleFrom hx h)

end

/-! Underscores -/

theorem sep_notMem_splitAt {sep : Char} {cs p : List Char} (hp : p ∈ splitAt sep cs) : sep ∉ p := by
  induction cs generalizing p with
  | nil => simp_all [splitAt]
  | cons c cs ih =>
    unfold splitAt at hp
    split_ifs at hp with hc
    · rcases List.mem_cons.1 hp with rfl | hp
      · exact List.not_mem_nil
      · exact ih hp
    · split at hp
      · obtain rfl := List.mem_singleton.1 hp
        simpa using Ne.symm hc
      · next q qs hq =>
        rcases List.mem_cons.1 hp with rfl | hp
        · simpa [Ne.symm hc] using ih (hq ▸ .head _)
        · exact ih (hq ▸ .tail _ hp)

theorem splitAt_of_notMem {sep : Char} {cs : List Char} (h : sep ∉ cs) : splitAt sep cs = [cs] := by
  induction cs with
  | nil => rfl
  | cons c cs ih =>
    obtain ⟨hc, hcs⟩ := List.ne_and_not_mem_of_not_mem_cons h
    rw [splitAt, if_neg (Ne.symm hc), ih hcs]

theorem underscore_notMem_camel (s : String) : '_' ∉ (camel s).toList := by
  rw [camel, String.toList_ofList, camelChars]
  split
  · exact List.not_mem_nil
  · next p ps hps =>
    have hparts : ∀ q ∈ p :: ps, '_' ∉ q := fun q hq => sep_notMem_splitAt (hps ▸ hq)
    intro h
    rcases List.mem_append.1 h with h | h
    · exact hparts p (.head _) h
    · obtain ⟨q, hq, h⟩ := List.mem_flatMap.1 h
      exact hparts q (.tail _ hq) (mem_titleFrom isMark_underscore h)

/-- A name without underscores is in camel case. -/
theorem camel_of_notMem {s : String} (h : '_' ∉ s.toList) : camel s = s := by
  rw [camel, camelChars, splitAt_of_notMem h]
  simp

/-! Names of the ASCII block -/

/-- A letter or an underscore, and then letters, digits and underscores. -/
def isAsciiName : List Char → Bool
  | [] => false
  | c :: cs => (c.isAlpha || c == '_') && cs.all fun d => d.isAlphanum || d == '_'

/-- What a script takes for a name: letters, digits, underscores and dollar signs, of which the first
is no digit. -/
def isScriptName : List Char → Bool
  | [] => false
  | c :: cs => !c.isDigit && (c :: cs).all fun d => d.isAlphanum || d == '_' || d == '$'

/-- Letters, digits and underscores. -/
def IsWord (cs : List Char) : Prop := ∀ c ∈ cs, c.isAlphanum = true ∨ c = '_'

theorem isWord_of_isAsciiName {cs : List Char} (h : isAsciiName cs = true) : IsWord cs := by
  cases cs with
  | nil => cases h
  | cons c cs =>
    simp only [isAsciiName, Bool.and_eq_true, Bool.or_eq_true, beq_iff_eq, List.all_eq_true] at h
    refine List.forall_mem_cons.2 ⟨h.1.imp_left fun hc => ?_, h.2⟩
    rw [Char.isAlphanum, hc, Bool.true_or]

theorem isAlphanum_of_mem_splitAt {cs p : List Char} (h : IsWord cs) (hp : p ∈ splitAt '_' cs) :
    ∀ c ∈ p, c.isAlphanum = true := by
  intro c hc
  refine (h c (mem_splitAt hp hc)).resolve_right ?_
  rintro rfl
  exact sep_notMem_splitAt hp hc

theorem toNat_of_isAlphanum {c : Char} (h : c.isAlphanum = true) : c.toNat < 0x80 := by
  simp only [Char.isAlphanum, Char.isAlpha, Char.isUpper, Char.isLower, Char.isDigit,
    Bool.or_eq_true, Bool.and_eq_true, decide_eq_true_eq, UInt32.le_iff_toNat_le] at h
  change ((_ ∧ c.toNat ≤ 90) ∨ _ ∧ c.toNat ≤ 122) ∨ _ ∧ c.toNat ≤ 57 at h
  omega

/-- Title case turns a letter into a letter and leaves a digit as it is. -/
theorem titleFrom_cons {c : Char} (hc : c.isAlphanum = true) (before cs : List Char) :
    ∃ d, d.isAlphanum = true ∧ d.isDigit = c.isDigit ∧
      titleFrom before (c :: cs) = d :: titleFrom (c :: before) cs := by
  have hascii := toNat_of_isAlphanum hc
  have hupper : c.toUpper.isAlphanum = true ∧ c.toUpper.isDigit = c.isDigit :=
    ascii_induction (P := fun c => c.isAlphanum = true →
      c.toUpper.isAlphanum = true ∧ c.toUpper.isDigit = c.isDigit) (by decide +kernel) hascii hc
  have hlower : c.toLower.isAlphanum = true ∧ c.toLower.isDigit = c.isDigit :=
    ascii_induction (P := fun c => c.isAlphanum = true →
      c.toLower.isAlphanum = true ∧ c.toLower.isDigit = c.isDigit) (by decide +kernel) hascii hc
  have hsigma : c.toNat ≠ 0x3a3 := by omega
  rw [titleFrom, lowerIn, if_neg hsigma, lowerChar, if_pos hascii, titleChar, if_pos hascii]
  split_ifs
  · exact ⟨c.toLower, hlower.1, hlower.2, rfl⟩
  · exact ⟨c.toUpper, hupper.1, hupper.2, rfl⟩

theorem isAlphanum_of_mem_titleFrom {before cs : List Char} (h : ∀ c ∈ cs, c.isAlphanum = true) :
    ∀ d ∈ titleFrom before cs, d.isAlphanum = true := by
  induction cs generalizing before with
  | nil => exact fun d hd => by cases hd
  | cons c cs ih =>
    obtain ⟨hc, hcs⟩ := List.forall_mem_cons.1 h
    obtain ⟨d, hd, -, heq⟩ := titleFrom_cons hc before cs
    rw [heq]
    exact List.forall_mem_cons.2 ⟨hd, ih hcs⟩

theorem isAlphanum_of_mem_camelChars {cs : List Char} (h : IsWord cs) :
    ∀ d ∈ camelChars cs, d.isAlphanum = true := by
  intro d hd
  unfold camelChars at hd
  split at hd
  · cases hd
  · next p ps hps =>
    rcases List.mem_append.1 hd with hd | hd
    · exact isAlphanum_of_mem_splitAt h (hps ▸ .head _) d hd
    · obtain ⟨q, hq, hd⟩ := List.mem_flatMap.1 hd
      exact isAlphanum_of_mem_titleFrom (isAlphanum_of_mem_splitAt h (hps ▸ .tail _ hq)) d hd

/-- The first character that is no underscore comes first in the title case of the components, as a
letter or a digit as before. -/
theorem head_titled {cs : List Char} (h : IsWord cs) :
    (((splitAt '_' cs).flatMap (titleFrom [])).head?).map Char.isDigit =
      ((cs.dropWhile (· == '_')).head?).map Char.isDigit := by
  induction cs with
  | nil => rfl
  | cons c cs ih =>
    obtain ⟨hc, hcs⟩ := List.forall_mem_cons.1 h
    by_cases hscore : c = '_'
    · subst hscore
      rw [splitAt, if_pos rfl, List.flatMap_cons, List.dropWhile_cons_of_pos rfl]
      exact ih hcs
    · rw [splitAt, if_neg hscore, List.dropWhile_cons_of_neg (by simpa using hscore)]
      split
      · next hnil => exact absurd hnil (splitAt_ne_nil _ _)
      · next p ps _ =>
        obtain ⟨d, -, hd, heq⟩ := titleFrom_cons (hc.resolve_right hscore) [] p
        rw [List.flatMap_cons, heq]
        exact congrArg some hd

theorem head_camelChars {cs : List Char} (h : IsWord cs) :
    ((camelChars cs).head?).map Char.isDigit =
      ((cs.dropWhile (· == '_')).head?).map Char.isDigit := by
  cases cs with
  | nil => rfl
  | cons c cs =>
    by_cases hscore : c = '_'
    · subst hscore
      rw [camelChars, splitAt, if_pos rfl, List.dropWhile_cons_of_pos rfl]
      exact head_titled (List.forall_mem_cons.1 h).2
    · rw [camelChars, splitAt, if_neg hscore, List.dropWhile_cons_of_neg (by simpa using hscore)]
      cases hcs : splitAt '_' cs with
      | nil => exact absurd hcs (splitAt_ne_nil _ _)
      | cons p ps => rfl

theorem isScriptName_iff {cs : List Char} (h : ∀ c ∈ cs, c.isAlphanum = true) :
    isScriptName cs = true ↔ (cs.head?).map Char.isDigit = some false := by
  cases cs with
  | nil => simp [isScriptName]
  | cons c cs =>
    have hall : ((c :: cs).all fun d => d.isAlphanum || d == '_' || d == '$') = true :=
      List.all_eq_true.2 fun d hd => by rw [h d hd, Bool.true_or, Bool.true_or]
    rw [isScriptName, hall, Bool.and_true, List.head?_cons, Option.map_some, Option.some_inj,
      Bool.not_eq_true']

/-- The camel case of a name is a name in a script exactly if the first character of the name that is
no underscore is a letter: underscores alone leave nothing, and a digit after them comes first. -/
theorem camel_isScriptName_iff {s : String} (h : isAsciiName s.toList = true) :
    isScriptName (camel s).toList = true ↔
      ∃ c cs, s.toList.dropWhile (· == '_') = c :: cs ∧ c.isAlpha = true := by
  have hword := isWord_of_isAsciiName h
  rw [camel, String.toList_ofList, isScriptName_iff (isAlphanum_of_mem_camelChars hword),
    head_camelChars hword]
  have hrest : IsWord (s.toList.dropWhile (· == '_')) := fun c hc =>
    hword c ((List.dropWhile_sublist _).subset hc)
  have hhead := List.head?_dropWhile_not (· == '_') s.toList
  cases hs : s.toList.dropWhile (· == '_') with
  | nil => simp
  | cons c cs =>
    rw [hs] at hrest hhead
    have hc : c.isAlphanum = true :=
      (hrest c (.head _)).resolve_right (by simpa using hhead)
    have hclass : c.isDigit = false ↔ c.isAlpha = true :=
      ascii_induction (P := fun c => c.isAlphanum = true → (c.isDigit = false ↔ c.isAlpha = true))
        (by decide +kernel) (toNat_of_isAlphanum hc) hc
    simpa using hclass

/-- Nothing is left of an underscore, and what is left of `_1` starts with a digit. -/
theorem underscores_no_scriptName :
    isAsciiName "_".toList = true ∧ isScriptName (camel "_").toList = false ∧
    isAsciiName "_1".toList = true ∧ isScriptName (camel "_1").toList = false ∧
    isAsciiName "__a_1b".toList = true ∧ isScriptName (camel "__a_1b").toList = true := by
  have hnone (s : String) (hs : isAsciiName s.toList = true)
      (hhead : (s.toList.dropWhile (· == '_')).head?.any Char.isAlpha = false) :
      isScriptName (camel s).toList = false := by
    rw [← Bool.not_eq_true, camel_isScriptName_iff hs]
    rintro ⟨c, cs, heq, hc⟩
    rw [heq] at hhead
    simp [hc] at hhead
  refine ⟨rfl, hnone _ rfl rfl, rfl, hnone _ rfl rfl, rfl, ?_⟩
  exact (camel_isScriptName_iff rfl).2 ⟨'a', "_1b".toList, rfl, rfl⟩

end Transpile.Text
