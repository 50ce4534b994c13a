import Transpile.Proofs.Breaks
import Transpile.Source.Scan

/-! The tokens of a source text hold no line breaks, strings apart: a name is the one form of
characters that names are made of, and a number is held as it is shown. -/

namespace Transpile.Source

open Text

/-- No line break stands in the text of the token. -/
def Tok.Unbroken : Tok → Prop
  | .name s | .number s | .string s => '\n' ∉ s.toList
  | _ => True

theorem unbroken_wordTok {cs : List Char} (h : '\n' ∉ cs) : (wordTok cs).Unbroken := by
  unfold wordTok
  split_ifs
  · trivial
  · simpa [Tok.Unbroken] using break_notMem_oneForm h

section

variable {t : Tok} {cs : List Char} {n : Nat}

/-- Quotes hold a text or bytes. -/
theorem stringTok_eq {raw bytes : Bool} (h : stringTok raw bytes cs = some t) :
    ∃ s, t = .string s ∨ t = .bytes s := by
  unfold stringTok at h
  dsimp only at h
  split at h
  · cases h
  · split at h
    all_goals
      obtain ⟨cs', -, h⟩ := Option.bind_eq_some_iff.1 h
      refine ⟨String.ofList cs', ?_⟩
      rw [← Option.some.inj h]
      cases bytes
      · exact .inl rfl
      · exact .inr rfl

theorem scanString_tok {raw bytes : Bool} (h : scanString raw bytes cs = some (t, n)) :
    ∃ s, t = .string s ∨ t = .bytes s := by
  cases cs with
  | nil => cases h
  | cons q r =>
    obtain ⟨m, -, h⟩ := Option.bind_eq_some_iff.1 h
    obtain ⟨tok, htok, h⟩ := Option.bind_eq_some_iff.1 h
    cases h
    exact stringTok_eq htok

theorem unbroken_of_quotes (h : ∃ s, t = .string s ∨ t = .bytes s)
    (hs : ∀ s, t = .string s → '\n' ∉ s.toList) : t.Unbroken := by
  obtain ⟨s, rfl | rfl⟩ := h
  · exact hs s rfl
  · trivial

theorem break_notMem_takeWhile : '\n' ∉ cs.takeWhile isNameChar := fun h =>
  absurd (List.all_eq_true.1 List.all_takeWhile _ h) (by decide)

theorem unbroken_scanWord (h : scanWord cs = some (t, n))
    (hs : ∀ s, t = .string s → '\n' ∉ s.toList) : t.Unbroken := by
  simp only [scanWord] at h
  split at h
  · obtain ⟨⟨tok, m⟩, htok, h⟩ := Option.bind_eq_some_iff.1 h
    cases h
    exact unbroken_of_quotes (scanString_tok htok) hs
  · split_ifs at h
    cases h
    exact unbroken_wordTok break_notMem_takeWhile

theorem unbroken_scanToken (h : scanToken cs = some (t, n))
    (hs : ∀ s, t = .string s → '\n' ∉ s.toList) : t.Unbroken := by
  cases cs with
  | nil => cases h
  | cons c r =>
    simp only [scanToken] at h
    split_ifs at h
    · obtain ⟨rest, -, h⟩ := Option.bind_eq_some_iff.1 h
      split_ifs at h
      cases h
      exact Number.break_notMem_shown _
    · exact unbroken_of_quotes (scanString_tok h) hs
    · exact unbroken_scanWord h hs
    · obtain ⟨s, -, h⟩ := Option.bind_eq_some_iff.1 h
      cases h
      trivial

end

/-- Tokens that mark lines and blocks. -/
def Tok.isLayout : Tok → Bool
  | .newline | .indent | .dedent => true
  | _ => false

theorem isLayout_changeClosed {col alt : Nat} {blocks : List (Nat × Nat)}
    {r : List Tok × List (Nat × Nat)} (h : changeIndent.changeClosed col alt blocks = some r) :
    ∀ t ∈ r.1, t.isLayout = true := by
  induction blocks generalizing r with
  | nil => cases h
  | cons b blocks ih =>
    simp only [changeIndent.changeClosed] at h
    split_ifs at h
    · cases h
      simp
    · obtain ⟨r', hr', rfl⟩ := Option.map_eq_some_iff.1 h
      exact List.forall_mem_cons.2 ⟨rfl, ih hr'⟩

theorem isLayout_changeIndent {col alt : Nat} {blocks : List (Nat × Nat)}
    {r : List Tok × List (Nat × Nat)} (h : changeIndent col alt blocks = some r) :
    ∀ t ∈ r.1, t.isLayout = true := by
  cases blocks with
  | nil => cases h
  | cons b blocks =>
    simp only [changeIndent] at h
    split_ifs at h
    · cases h
      simp
    · cases h
      simp [Tok.isLayout]
    · obtain ⟨r', hr', rfl⟩ := Option.map_eq_some_iff.1 h
      exact List.forall_mem_cons.2 ⟨rfl, isLayout_changeClosed hr'⟩

/-- Every token marks the layout, or is scanned from what stands somewhere in the text. -/
theorem scanned_of_scanFrom {st : ScanState} {cs : List Char} {ts : List Token}
    (h : scanFrom st cs = some ts) {t : Token} (ht : t ∈ ts) :
    t.tok.isLayout = true ∨ ∃ cs n, scanToken cs = some (t.tok, n) := by
  fun_induction scanFrom st cs generalizing ts with
  | case1 st =>
    unfold closing at h
    split_ifs at h
    cases h
    rw [(List.mem_replicate.1 ht).2]
    exact .inl rfl
  | case2 st c r hstart ih3 ih2 ih1 =>
    obtain ⟨i, -, h⟩ := Option.bind_eq_some_iff.1 h
    dsimp only at h
    split at h
    · exact ih3 i h ht
    split at h
    · obtain ⟨⟨toks, indents⟩, hchange, h⟩ := Option.bind_eq_some_iff.1 h
      obtain ⟨rest, hrest, h⟩ := Option.bind_eq_some_iff.1 h
      cases h
      rcases List.mem_append.1 ht with ht | ht
      · obtain ⟨tok, htok, rfl⟩ := List.mem_map.1 ht
        exact .inl (isLayout_changeIndent hchange tok htok)
      · exact ih2 i indents hrest ht
    · exact ih1 i h ht
  | case3 _ _ _ _ _ ih => exact ih h ht
  | case4 => rename_i ih; exact ih h ht
  | case5 => rename_i ih; exact ih h ht
  | case6 =>
    rename_i ih
    obtain ⟨rest, hrest, h⟩ := Option.bind_eq_some_iff.1 h
    cases h
    rcases List.mem_cons.1 ht with rfl | ht
    · exact .inl rfl
    · exact ih hrest ht
  | case7 _ _ _ _ _ _ _ ih => exact ih h ht
  | case8 => cases h
  | case9 st c r _ _ _ _ _ ih =>
    obtain ⟨⟨tok, n⟩, htok, h⟩ := Option.bind_eq_some_iff.1 h
    dsimp only at h
    split at h
    all_goals
      obtain ⟨brackets, -, h⟩ := Option.bind_eq_some_iff.1 h
      obtain ⟨rest, hrest, h⟩ := Option.bind_eq_some_iff.1 h
      cases h
      rcases List.mem_cons.1 ht with rfl | ht
      · exact .inr ⟨_, _, htok⟩
      · exact ih n brackets hrest ht

/-- The tokens of a text hold no line breaks if its strings do not. -/
theorem unbroken_of_tokens? {source : String} {ts : List Token} (h : tokens? source = some ts)
    (hs : ∀ t ∈ ts, ∀ s, t.tok = .string s → '\n' ∉ s.toList) : ∀ t ∈ ts, t.tok.Unbroken := by
  intro t ht
  rcases scanned_of_scanFrom h ht with hlayout | ⟨cs, n, hscan⟩
  · cases htok : t.tok <;> simp [htok, Tok.isLayout] at hlayout <;> trivial
  · exact unbroken_scanToken hscan (hs t ht)

end Transpile.Source
