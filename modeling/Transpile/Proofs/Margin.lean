import Transpile.Compile
import Transpile.Proofs.Camel
import Mathlib

/-! Taking off the margin of a text. What comes out has no blank at its ends and no line of spaces and
tabs but empty ones, and such a text stays as it is. Main statement: the same indentation before every
line that holds something makes no difference. -/

namespace Transpile.Text

/-! Lines -/

theorem lines_eq_splitOn (cs : List Char) : lines cs = cs.splitOn '\n' := splitAt_eq_splitOn _ _

theorem unlines_lines (cs : List Char) : unlines (lines cs) = cs := by
  rw [lines_eq_splitOn]
  exact List.intercalate_splitOn _

theorem lines_unlines {ls : List (List Char)} (hls : ls ≠ []) (h : ∀ l ∈ ls, '\n' ∉ l) :
    lines (unlines ls) = ls := by
  rw [lines_eq_splitOn]
  exact List.splitOn_intercalate _ h hls

theorem lines_ne_nil (cs : List Char) : lines cs ≠ [] := splitAt_ne_nil _ _

theorem break_notMem_line {cs l : List Char} (h : l ∈ lines cs) : '\n' ∉ l := sep_notMem_splitAt h

/-- The first character of a text opens its first line. -/
theorem lines_cons {c : Char} (hc : c ≠ '\n') (cs : List Char) :
    ∃ l ls, lines (c :: cs) = (c :: l) :: ls := by
  unfold lines
  rw [splitAt, if_neg hc]
  split
  · exact ⟨_, _, rfl⟩
  · exact ⟨_, _, rfl⟩

/-- Every line with the break that ends it, one at the end of the text included. -/
theorem flatMap_lines (cs : List Char) : (lines cs).flatMap (· ++ ['\n']) = cs ++ ['\n'] := by
  induction cs with
  | nil => rfl
  | cons c cs ih =>
    unfold lines at ih ⊢
    rw [splitAt]
    split_ifs with hc
    · rw [List.flatMap_cons, ih, hc]
      rfl
    · split
      · next hnil => exact absurd hnil (splitAt_ne_nil _ _)
      · next p ps hps =>
        rw [hps, List.flatMap_cons] at ih
        simp [List.flatMap_cons, ← ih]

/-- A line opens the text, ends it or stands between breaks. -/
theorem line_cases {cs l : List Char} (h : l ∈ lines cs) :
    l <+: cs ∨ l <:+ cs ∨ ∃ x y, cs = x ++ '\n' :: (l ++ '\n' :: y) := by
  obtain ⟨before, after, heq⟩ := List.append_of_mem h
  have htext := flatMap_lines cs
  rw [heq, List.flatMap_append, List.flatMap_cons] at htext
  rcases List.eq_nil_or_concat after with rfl | ⟨after, last, rfl⟩
  · rw [List.flatMap_nil, List.append_nil, ← List.append_assoc] at htext
    exact .inr (.inl ⟨_, List.append_cancel_right htext⟩)
  · rw [List.concat_eq_append, List.flatMap_append, List.flatMap_singleton, ← List.append_assoc,
      ← List.append_assoc, ← List.append_assoc] at htext
    have hcs := List.append_cancel_right htext
    rcases List.eq_nil_or_concat before with rfl | ⟨before, first, rfl⟩
    · exact .inl ⟨'\n' :: (after.flatMap (· ++ ['\n']) ++ last), by simpa using hcs⟩
    · refine .inr (.inr ⟨before.flatMap (· ++ ['\n']) ++ first,
        after.flatMap (· ++ ['\n']) ++ last, ?_⟩)
      simpa using hcs.symm

/-- What stands between breaks is a line. -/
theorem mem_lines_of_between {l : List Char} (hl : '\n' ∉ l) (x y : List Char) :
    l ∈ lines (x ++ '\n' :: (l ++ '\n' :: y)) := by
  unfold lines
  rw [splitAt_append, splitAt_append, splitAt_of_notMem hl]
  simp

/-! Blanks at the ends -/

/-- No blank stands at either end. -/
structure Trimmed (cs : List Char) : Prop where
  head : ∀ c ∈ cs.head?, isBlank c = false
  last : ∀ c ∈ cs.getLast?, isBlank c = false

theorem head_stripStart (cs : List Char) : ∀ c ∈ (stripStart cs).head?, isBlank c = false := by
  intro c hc
  have hhead := List.head?_dropWhile_not isBlank cs
  rw [stripStart, Option.mem_def] at hc
  rwa [hc] at hhead

theorem stripStart_of_head {cs : List Char} (h : ∀ c ∈ cs.head?, isBlank c = false) :
    stripStart cs = cs := by
  cases cs with
  | nil => rfl
  | cons c cs => rw [stripStart, List.dropWhile_cons, h c rfl, if_neg Bool.false_ne_true]

theorem stripEnd_isPrefix (cs : List Char) : stripEnd cs <+: cs := List.rdropWhile_prefix isBlank cs

theorem strip_infix (cs : List Char) : strip cs <:+: cs :=
  (stripEnd_isPrefix _).isInfix.trans (List.dropWhile_suffix _).isInfix

theorem trimmed_strip (cs : List Char) : Trimmed (strip cs) where
  head := by
    intro c hc
    obtain ⟨t, ht⟩ := stripEnd_isPrefix (stripStart cs)
    refine head_stripStart cs c ?_
    rw [← ht]
    exact List.mem_head?_append_of_mem_head? hc
  last := by
    intro c hc
    rw [strip, stripEnd, List.getLast?_reverse] at hc
    exact head_stripStart _ c hc

theorem strip_of_trimmed {cs : List Char} (h : Trimmed cs) : strip cs = cs := by
  have hlast : ∀ c ∈ cs.reverse.head?, isBlank c = false := by
    rw [List.head?_reverse]
    exact h.last
  rw [strip, stripStart_of_head h.head, stripEnd, stripStart_of_head hlast, List.reverse_reverse]

theorem isBlank_of_isIndent {c : Char} (h : isIndent c = true) : isBlank c = true := by
  simp only [isIndent, Bool.or_eq_true, decide_eq_true_eq] at h
  rcases h with rfl | rfl <;> rfl

/-! The margin -/

theorem commonPart_append (w a b : List Char) :
    commonPart (w ++ a) (w ++ b) = w ++ commonPart a b := by
  induction w with
  | nil => rfl
  | cons c w ih => rw [List.cons_append, List.cons_append, commonPart, if_pos rfl, ih, List.cons_append]

theorem commonPart_isPrefix (a b : List Char) : commonPart a b <+: a ∧ commonPart a b <+: b := by
  fun_induction commonPart a b with
  | case1 c as bs ih => exact ⟨List.cons_prefix_cons.2 ⟨rfl, ih.1⟩, List.cons_prefix_cons.2 ⟨rfl, ih.2⟩⟩
  | case2 => simp
  | case3 => simp

theorem foldl_commonPart_append (w i : List Char) (is : List (List Char)) :
    (is.map (w ++ ·)).foldl commonPart (w ++ i) = w ++ is.foldl commonPart i := by
  induction is generalizing i with
  | nil => rfl
  | cons j is ih => rw [List.map_cons, List.foldl_cons, commonPart_append, ih, List.foldl_cons]

theorem foldl_commonPart_isPrefix (i : List Char) (is : List (List Char)) :
    is.foldl commonPart i <+: i ∧ ∀ j ∈ is, is.foldl commonPart i <+: j := by
  induction is generalizing i with
  | nil => simp
  | cons j is ih =>
    obtain ⟨hleft, hright⟩ := commonPart_isPrefix i j
    obtain ⟨hfirst, hrest⟩ := ih (commonPart i j)
    refine ⟨hfirst.trans hleft, List.forall_mem_cons.2 ⟨hfirst.trans hright, hrest⟩⟩

/-- What the lines begin with that hold something. -/
def indents (ls : List (List Char)) : List (List Char) :=
  (ls.filter (!·.all isIndent)).map (·.takeWhile isIndent)

/-- Where a line holds something, the margin is what all such lines begin with. -/
theorem margin_of_filled {ls : List (List Char)} {l : List Char} (hl : l ∈ ls)
    (hfilled : l.all isIndent = false) : ∃ i is, indents ls = i :: is ∧
      l.takeWhile isIndent ∈ i :: is ∧ margin ls = is.foldl commonPart i := by
  have hmem : l.takeWhile isIndent ∈ indents ls :=
    List.mem_map_of_mem (List.mem_filter.2 ⟨hl, by simp [hfilled]⟩)
  obtain ⟨i, is, his⟩ := List.exists_cons_of_ne_nil (List.ne_nil_of_mem hmem)
  refine ⟨i, is, his, his ▸ hmem, ?_⟩
  unfold indents at his
  rw [margin, his]

theorem margin_isPrefix {ls : List (List Char)} {l : List Char} (hl : l ∈ ls)
    (hfilled : l.all isIndent = false) : margin ls <+: l.takeWhile isIndent := by
  obtain ⟨i, is, -, hmem, hmargin⟩ := margin_of_filled hl hfilled
  obtain ⟨hfirst, hrest⟩ := foldl_commonPart_isPrefix i is
  rw [hmargin]
  rcases List.mem_cons.1 hmem with h | h
  · rw [h]
    exact hfirst
  · exact hrest _ h

/-- Below the margin a line that holds something still holds it. -/
theorem drop_margin_filled {ls : List (List Char)} {l : List Char} (hl : l ∈ ls)
    (hfilled : l.all isIndent = false) : (l.drop (margin ls).length).all isIndent = false := by
  have hlength := (margin_isPrefix hl hfilled).length_le
  have hsplit : l = l.takeWhile isIndent ++ l.dropWhile isIndent := List.takeWhile_append_dropWhile.symm
  rw [← Bool.not_eq_true] at hfilled ⊢
  intro hall
  rw [hsplit, List.drop_append_of_le_length hlength, List.all_append, Bool.and_eq_true] at hall
  refine hfilled ?_
  rw [hsplit, List.all_append, hall.2, Bool.and_true]
  exact List.all_takeWhile

theorem dedentLines_clean {ls : List (List Char)} {l : List Char} (hl : l ∈ dedentLines ls)
    (hblank : l.all isIndent = true) : l = [] := by
  obtain ⟨l₀, hl₀, rfl⟩ := List.mem_map.1 hl
  obtain ⟨l₁, hl₁, rfl⟩ := List.mem_map.1 hl₀
  unfold clearLine at hblank ⊢
  split_ifs at hblank ⊢ with hl₁blank
  · exact List.drop_nil
  · rw [drop_margin_filled hl₁ (by simpa using hl₁blank)] at hblank
    cases hblank

theorem lines_dedent (cs : List Char) : lines (dedent cs) = dedentLines (lines cs) := by
  refine lines_unlines (by simp [dedentLines, lines_ne_nil]) fun l hl => ?_
  obtain ⟨l₀, hl₀, rfl⟩ := List.mem_map.1 hl
  obtain ⟨l₁, hl₁, rfl⟩ := List.mem_map.1 hl₀
  intro hbreak
  have hmem := List.mem_of_mem_drop hbreak
  unfold clearLine at hmem
  split_ifs at hmem
  · cases hmem
  · exact break_notMem_line hl₁ hmem

/-! Texts without a margin -/

/-- No blank stands at either end, and lines of spaces and tabs only are empty. -/
structure IsNormal (cs : List Char) : Prop where
  trimmed : Trimmed cs
  clean : ∀ l ∈ cs.splitOn '\n', l.all isIndent = true → l = []

theorem isNormal_strip_dedent (cs : List Char) : IsNormal (strip (dedent cs)) where
  trimmed := trimmed_strip _
  clean := by
    intro l hl hblank
    rw [← lines_eq_splitOn] at hl
    have hedge := trimmed_strip (dedent cs)
    have hnone : ∀ c ∈ l, isBlank c = true := fun c hc =>
      isBlank_of_isIndent (List.all_eq_true.1 hblank c hc)
    -- a blank line cannot open or end the text, and one between breaks was there before the strip
    rcases line_cases hl with ⟨t, ht⟩ | ⟨t, ht⟩ | ⟨x, y, hxy⟩
    · cases l with
      | nil => rfl
      | cons c l =>
        have hc := hedge.head c (by rw [← ht]; rfl)
        rw [hnone c (.head _)] at hc
        cases hc
    · rcases List.eq_nil_or_concat l with rfl | ⟨l, c, rfl⟩
      · rfl
      · have hc := hedge.last c (by rw [← ht]; simp)
        rw [hnone c (by simp)] at hc
        cases hc
    · obtain ⟨a, b, hab⟩ := strip_infix (dedent cs)
      have hline : l ∈ lines (dedent cs) := by
        rw [← hab, hxy]
        have := mem_lines_of_between (break_notMem_line hl) (a ++ x) (y ++ b)
        simpa using this
      rw [lines_dedent] at hline
      exact dedentLines_clean hline hblank

theorem margin_of_trimmed {cs : List Char} (h : Trimmed cs) : margin (lines cs) = [] := by
  cases cs with
  | nil => rfl
  | cons c cs =>
    have hc := h.head c rfl
    have hbreak : c ≠ '\n' := by
      rintro rfl
      cases hc
    have hindent : isIndent c = false := by
      rw [← Bool.not_eq_true]
      intro hindent
      rw [isBlank_of_isIndent hindent] at hc
      cases hc
    obtain ⟨l, ls, hlines⟩ := lines_cons hbreak cs
    have hmem : c :: l ∈ lines (c :: cs) := by simp [hlines]
    have hprefix := margin_isPrefix hmem (by simp [hindent])
    rwa [List.takeWhile_cons, hindent, if_neg Bool.false_ne_true, List.prefix_nil] at hprefix

theorem strip_dedent_of_isNormal {cs : List Char} (h : IsNormal cs) : strip (dedent cs) = cs := by
  have hclear : (lines cs).map clearLine = (lines cs).map id := by
    refine List.map_congr_left fun l hl => ?_
    rw [lines_eq_splitOn] at hl
    unfold clearLine
    split_ifs with hblank
    · exact (h.clean l hl hblank).symm
    · rfl
  rw [dedent, dedentLines, margin_of_trimmed h.trimmed, hclear]
  simp only [List.length_nil, List.drop_zero, List.map_id, List.map_id']
  rw [unlines_lines, strip_of_trimmed h.trimmed]

theorem isNormal_normalize (s : String) : IsNormal (normalize s).toList := by
  rw [normalize, String.toList_ofList]
  exact isNormal_strip_dedent _

theorem normalize_of_isNormal {s : String} (h : IsNormal s.toList) : normalize s = s := by
  rw [normalize, strip_dedent_of_isNormal h, String.ofList_toList]

/-! Indentation -/

/-- A line with `w` before it, if it holds something besides spaces and tabs. -/
def indentLine (w l : List Char) : List Char := if l.all isIndent then l else w ++ l

/-- A text with `w` before each line that holds something besides spaces and tabs. -/
def indented (w t : String) : String :=
  String.ofList (['\n'].intercalate ((t.toList.splitOn '\n').map (indentLine w.toList)))

section

variable {w : List Char} (hw : w.all isIndent = true)
include hw

theorem all_indentLine (l : List Char) : (indentLine w l).all isIndent = l.all isIndent := by
  unfold indentLine
  split_ifs with hblank
  · rfl
  · rw [List.all_append, hw, Bool.true_and]

/-- The lines that hold something are the same, each with `w` before its indentation. -/
theorem indents_indentLine (ls : List (List Char)) :
    indents (ls.map (indentLine w)) = (indents ls).map (w ++ ·) := by
  have hfilter : (fun l : List Char => !l.all isIndent) ∘ indentLine w = (!·.all isIndent) :=
    funext fun l => congrArg not (all_indentLine hw l)
  rw [indents, indents, List.filter_map, hfilter, List.map_map, List.map_map]
  refine List.map_congr_left fun l hl => ?_
  have hfilled := (List.mem_filter.1 hl).2
  rw [Bool.not_eq_true'] at hfilled
  simp only [Function.comp_apply, indentLine, hfilled, Bool.false_eq_true, if_false]
  exact List.takeWhile_append_of_pos (List.all_eq_true.1 hw)

theorem margin_indentLine {ls : List (List Char)} {l : List Char} (hl : l ∈ ls)
    (hfilled : l.all isIndent = false) : margin (ls.map (indentLine w)) = w ++ margin ls := by
  have hfilled' := (all_indentLine hw l).trans hfilled
  obtain ⟨i, is, his, -, hmargin⟩ := margin_of_filled hl hfilled
  obtain ⟨j, js, hjs, -, hmargin'⟩ := margin_of_filled (List.mem_map_of_mem hl) hfilled'
  rw [indents_indentLine hw, his] at hjs
  obtain ⟨rfl, rfl⟩ := List.cons.inj hjs
  rw [hmargin, hmargin', foldl_commonPart_append]

theorem dedentLines_indentLine (ls : List (List Char)) :
    dedentLines (ls.map (indentLine w)) = dedentLines ls := by
  unfold dedentLines
  rw [List.map_map, List.map_map, List.map_map]
  refine List.map_congr_left fun l hl => ?_
  simp only [Function.comp_apply, clearLine, all_indentLine hw]
  split_ifs with hblank
  · rw [List.drop_nil, List.drop_nil]
  · rw [margin_indentLine hw hl (by simpa using hblank), indentLine, if_neg hblank,
      List.length_append, List.drop_append]
    simp

theorem lines_indentLine (cs : List Char) :
    lines (unlines ((lines cs).map (indentLine w))) = (lines cs).map (indentLine w) := by
  refine lines_unlines (by simp [lines_ne_nil]) fun l hl hbreak => ?_
  obtain ⟨l₀, hl₀, rfl⟩ := List.mem_map.1 hl
  unfold indentLine at hbreak
  split_ifs at hbreak
  · exact break_notMem_line hl₀ hbreak
  · rcases List.mem_append.1 hbreak with hbreak | hbreak
    · exact absurd (List.all_eq_true.1 hw _ hbreak) (by decide)
    · exact break_notMem_line hl₀ hbreak

end

theorem normalize_indented {w : String} (hw : w.toList.all isIndent = true) (t : String) :
    normalize (indented w t) = normalize t := by
  rw [normalize, indented, ← lines_eq_splitOn, String.toList_ofList, dedent]
  change String.ofList (strip (unlines (dedentLines (lines (unlines _))))) = _
  rw [lines_indentLine hw, dedentLines_indentLine hw]
  rfl

/-- Spaces and tabs before all lines that hold something are taken off again, so they change nothing
in what a text is compiled to. What is left has no blank at its ends and no line of spaces and tabs
only, and the texts of which this is true are those that stay as they are. -/
theorem margin_taken_off (t : String) {w : String} (hw : ∀ c ∈ w.toList, c = ' ' ∨ c = '\t') :
    normalize (indented w t) = normalize t ∧
    (∀ s, compile s (indented w t) = compile s t) ∧
    normalize (normalize t) = normalize t ∧
    (normalize t = t ↔ IsNormal t.toList) := by
  have hindent : w.toList.all isIndent = true := by simpa [isIndent] using hw
  have hsame := normalize_indented hindent t
  refine ⟨hsame, fun s => ?_, normalize_of_isNormal (isNormal_normalize t), fun h => ?_,
    normalize_of_isNormal⟩
  · rw [compile, hsame, compile]
  · rw [← h]
    exact isNormal_normalize t

theorem tabbedLoop_taken_off : (∀ c ∈ "\t ".toList, c = ' ' ∨ c = '\t') ∧
    indented "\t " " while a:\n   b\n \n c" = "\t  while a:\n\t    b\n \n\t  c" ∧
    normalize "\t  while a:\n\t    b\n \n\t  c" = normalize " while a:\n   b\n \n c" ∧
    normalize " while a:\n   b\n \n c" = "while a:\n  b\n\nc" := by
  have hw : ∀ c ∈ "\t ".toList, c = ' ' ∨ c = '\t' := by simp
  have hcopy : indented "\t " " while a:\n   b\n \n c" = "\t  while a:\n\t    b\n \n\t  c" := by
    decide +kernel
  refine ⟨hw, hcopy, ?_, by decide +kernel⟩
  rw [← hcopy]
  exact (margin_taken_off _ hw).1

end Transpile.Text
