import Transpile.Proofs.Layout.Uniform
import Transpile.Proofs.Placement

/-! One tree at two placements. Main statement: whether a tree without setters can be rendered, why not
if it cannot, and all of its text but the addresses in it do not depend on where its forms stand. A
setter is left out because the cause of its failure may show its address. -/

namespace Transpile.Script

open Render

section

variable {α α' β β' : Type} {P : α → α' → Prop} {Q : β → β' → Prop}

/-- The renderings fail alike, or they end at one level with results that are related. -/
def Twin (P : α → α' → Prop) (v : Render α) (w : Render α') : Prop := ∀ unit level,
  (∃ c level', v unit level = (.error c, level') ∧ w unit level = (.error c, level')) ∨
  ∃ a a' level', v unit level = (.ok a, level') ∧ w unit level = (.ok a', level') ∧ P a a'

theorem twin_pure {a : α} {a' : α'} (h : P a a') : Twin P (pure a) (pure a') :=
  fun _ level => .inr ⟨a, a', level, rfl, rfl, h⟩

theorem twin_throw (c : Cause) : Twin P (throw c) (throw c) := fun _ level => .inl ⟨c, level, rfl, rfl⟩

theorem twin_same (w : Render α) : Twin Eq w w := by
  intro unit level
  rcases h : w unit level with ⟨c | a, level'⟩
  · exact .inl ⟨c, level', rfl, rfl⟩
  · exact .inr ⟨a, a, level', rfl, rfl, rfl⟩

theorem twin_bind {v : Render α} {w : Render α'} {f : α → Render β} {g : α' → Render β'}
    (h : Twin P v w) (hf : ∀ a a', P a a' → Twin Q (f a) (g a')) : Twin Q (v >>= f) (w >>= g) := by
  intro unit level
  rcases h unit level with ⟨c, level', hv, hw⟩ | ⟨a, a', level', hv, hw, ha⟩
  · exact .inl ⟨c, level', bind_of_error hv, bind_of_error hw⟩
  · rw [bind_of_ok hv, bind_of_ok hw]
    exact hf a a' ha unit level'

/-- A step that both renderings take. -/
theorem twin_step {w : Render α} {f : α → Render β} {g : α → Render β'}
    (hf : ∀ a, Twin Q (f a) (g a)) : Twin Q (w >>= f) (w >>= g) :=
  twin_bind (twin_same w) fun a _ ha => ha ▸ hf a

theorem twin_cond {b b' : Bool} (hb : b = b') {v w : Render α} {v' w' : Render α'}
    (hv : Twin P v v') (hw : Twin P w w') :
    Twin P (if b then v else w) (if b' then v' else w') := by
  subst hb
  split_ifs
  · exact hv
  · exact hw

theorem twin_mapM {γ γ' : Type} {f : γ → Render α} {g : γ' → Render α'} {xs : List γ}
    {ys : List γ'} (h : List.Forall₂ (fun x y => Twin P (f x) (g y)) xs ys) :
    Twin (List.Forall₂ P) (xs.mapM f) (ys.mapM g) := by
  induction h with
  | nil => exact twin_pure .nil
  | cons hx _ ih =>
    rw [List.mapM_cons, List.mapM_cons]
    exact twin_bind hx fun a a' ha => twin_bind ih fun as as' has => twin_pure (.cons ha has)

end

/-- Texts that are alike, or pieces that are no texts and are shown alike. -/
inductive Like : Piece → Piece → Prop
  | text {s t : String} : Alike s t → Like (.text s) (.text t)
  | other {p q : Piece} : (∀ s, p ≠ .text s) → (∀ s, q ≠ .text s) → Alike p.shown q.shown → Like p q

theorem Like.shown {p q : Piece} (h : Like p q) : Alike p.shown q.shown := by
  cases h with
  | text h => exact h
  | other _ _ h => exact h

theorem textOf_of_ne {p : Piece} (hp : ∀ s, p ≠ .text s) : textOf p = throw .wrongType := by
  unfold textOf
  split
  · exact absurd rfl (hp _)
  · rfl

theorem twin_textOf {p q : Piece} (h : Like p q) : Twin Alike (textOf p) (textOf q) := by
  cases h with
  | text h => exact twin_pure h
  | other hp hq =>
    rw [textOf_of_ne hp, textOf_of_ne hq]
    exact twin_throw _

theorem twin_say {s t : String} (h : Alike s t) : Twin Like (say s) (say t) := twin_pure (.text h)

/-- A piece at two placements, with what is known of it once its parts are. -/
structure Pair (p q : Piece) : Prop where
  origin : ∃ r π π', p = Piece.placed π r ∧ q = Piece.placed π' r
  quoted : Alike p.quoted q.quoted
  like : Like p q
  run : Twin Like p.render q.render
  asCase : Twin Alike p.renderCase q.renderCase
  asDefault : Twin Alike p.renderDefault q.renderDefault
  value : Twin (fun v w => Alike v.shown w.shown) (liftM p.value : Render Piece) (liftM q.value)

inductive Seq.Pair : Seq → Seq → Prop
  | items {xs ys : List Piece} : List.Forall₂ Script.Pair xs ys → Seq.Pair (.items xs) (.items ys)
  | spread {p q : Piece} {xs ys : List Piece} : Script.Pair p q → List.Forall₂ Script.Pair xs ys →
    Seq.Pair (.spread p xs) (.spread q ys)
  | single {p q : Piece} : Script.Pair p q → Seq.Pair (.single p) (.single q)

namespace Pair

variable {p q : Piece} (h : Pair p q)

include h

theorem isAbsent_eq : p.isAbsent = q.isAbsent := by
  obtain ⟨r, π, π', rfl, rfl⟩ := h.origin
  rw [isAbsent_placed, isAbsent_placed]

theorem isTruthy_eq : p.isTruthy = q.isTruthy := by
  obtain ⟨r, π, π', rfl, rfl⟩ := h.origin
  rw [isTruthy_placed, isTruthy_placed]

theorem isLoopStart_eq : p.isLoopStart = q.isLoopStart := by
  obtain ⟨r, π, π', rfl, rfl⟩ := h.origin
  rw [isLoopStart_placed, isLoopStart_placed]

theorem isVarDecl_eq : p.isVarDecl = q.isVarDecl := by
  obtain ⟨r, π, π', rfl, rfl⟩ := h.origin
  rw [isVarDecl_placed, isVarDecl_placed]

theorem isWordOp_eq : isWordOp p = isWordOp q := by
  obtain ⟨r, π, π', rfl, rfl⟩ := h.origin
  rw [isWordOp_placed, isWordOp_placed]

variable {β β' : Type} {P : β → β' → Prop} {f : String → Render β} {g : String → Render β'}
  (hf : ∀ s t, Alike s t → Twin P (f s) (g t))

include hf

/-- The text of the piece is used further. -/
theorem text : Twin P (do let s ← textOf (← p.render); f s) (do let s ← textOf (← q.render); g s) :=
  twin_bind h.run fun _ _ hr => twin_bind (twin_textOf hr) hf

theorem textOrEmpty : Twin P
    (if p.isAbsent then pure "" >>= f else do let s ← textOf (← p.render); f s)
    (if q.isAbsent then pure "" >>= g else do let s ← textOf (← q.render); g s) :=
  twin_cond h.isAbsent_eq (hf _ _ (.same "")) (h.text hf)

theorem markedOrEmpty (mark : String) : Twin P
    (if p.isAbsent then pure "" >>= f
      else do let s ← textOf (← p.render); let t ← pure (mark ++ s); f t)
    (if q.isAbsent then pure "" >>= g
      else do let s ← textOf (← q.render); let t ← pure (mark ++ s); g t) :=
  twin_cond h.isAbsent_eq (hf _ _ (.same "")) (h.text fun _ _ hs => hf _ _ (.append (.same mark) hs))

end Pair

/-! Lists of parts -/

structure Item.Pair (x y : Item) : Prop where
  piece : Script.Pair x.piece y.piece
  run : Twin Like x.run y.run
  asCase : Twin Alike x.asCase y.asCase

section

variable {xs ys : List Item} {s t : Seq} {m m' : Marks}

theorem pair_actionsOf {ps qs : List Piece} (h : List.Forall₂ Pair ps qs) :
    List.Forall₂ Item.Pair (actionsOf ps) (actionsOf qs) := by
  induction h with
  | nil => exact .nil
  | cons hp _ ih => exact .cons ⟨hp, hp.run, hp.asCase⟩ ih

theorem twin_actions (h : s.Pair t) : Twin (List.Forall₂ Item.Pair) s.actions t.actions := by
  cases h with
  | items hxs => exact twin_pure (pair_actionsOf hxs)
  | spread _ hxs => exact twin_pure (pair_actionsOf hxs)
  | single _ => exact twin_throw _

theorem pair_present (h : List.Forall₂ Item.Pair xs ys) :
    List.Forall₂ Item.Pair (present xs) (present ys) :=
  List.rel_filter (fun _ _ hx => by simp [hx.piece.isAbsent_eq]) h

theorem twin_list (sep : String) (h : List.Forall₂ Item.Pair xs ys) :
    Twin Alike (list sep xs) (list sep ys) := by
  refine twin_bind (twin_mapM (h.imp fun _ _ hx => hx.run)) fun ps qs hps => ?_
  refine twin_bind (twin_mapM (hps.imp fun _ _ hp => twin_textOf hp)) fun ss ts hss => ?_
  exact twin_pure (alike_intercalate sep hss)

theorem twin_lines (sep : String) (h : List.Forall₂ Item.Pair xs ys) :
    Twin Alike (lines sep xs) (lines sep ys) := by
  refine twin_bind (twin_mapM (h.imp fun x y hx => ?_)) fun ss ts hss =>
    twin_pure (alike_intercalate sep hss)
  refine twin_step fun m => twin_bind hx.run fun _ _ hr => twin_bind (twin_textOf hr) fun s t hs => ?_
  exact twin_pure (.append (.same m) hs)

theorem twin_indented (sep : String) {v w : Render (List Item)}
    (h : Twin (List.Forall₂ Item.Pair) v w) : Twin Alike (indented sep v) (indented sep w) := by
  refine twin_step fun _ => twin_bind h fun xs ys hxs => twin_bind (twin_lines sep hxs) fun s t hs => ?_
  exact twin_step fun _ => twin_pure hs

theorem twin_body (h : s.Pair t) :
    Twin Alike (indented "\n" s.actions) (indented "\n" t.actions) :=
  twin_indented "\n" (twin_actions h)

theorem twin_cases (h : List.Forall₂ Item.Pair xs ys) : Twin Alike (cases xs) (cases ys) := by
  refine twin_bind (twin_mapM (h.imp fun x y hx => ?_)) fun ss ts hss => twin_pure (alike_join hss)
  exact twin_step fun m => twin_bind hx.asCase fun s t hs => twin_pure (.append (.same m) hs)

theorem twin_braces {a b : String} (h : Alike a b) : Twin Alike (braces a) (braces b) :=
  twin_step fun _ => twin_pure (((((Alike.same _).append h).append (.same _)).append (.same _)).append
    (.same _))

theorem twin_cells (h : List.Forall₂ Item.Pair xs ys) : Twin Alike (cells xs) (cells ys) := by
  induction h with
  | nil => exact twin_pure (.same _)
  | @cons x y xs ys hx hxs ih =>
    have hempty : xs.isEmpty = ys.isEmpty := by cases hxs <;> rfl
    have hrest {s t : String} (hs : Alike s t) :
        Twin Alike (do let u ← cells xs; return s ++ u) (do let u ← cells ys; return t ++ u) :=
      twin_bind ih fun u v hu => twin_pure (hs.append hu)
    have hitem : Twin Alike
        (do
          let s ← textOf (← x.run)
          let s ← pure (if xs.isEmpty then s else s ++ ",")
          let u ← cells xs
          return s ++ u)
        (do
          let s ← textOf (← y.run)
          let s ← pure (if ys.isEmpty then s else s ++ ",")
          let u ← cells ys
          return s ++ u) := by
      refine twin_bind hx.run fun _ _ hr => twin_bind (twin_textOf hr) fun s t hs => hrest ?_
      rw [hempty]
      split_ifs
      · exact hs
      · exact hs.append (.same _)
    -- A hole is a hole at every address.
    obtain ⟨r, π, π', hp, hq⟩ := hx.piece.origin
    unfold cells
    rw [hp, hq]
    cases r with
    | node f m =>
      cases f with
      | leaf k v =>
        cases k with
        | elision => exact hrest (.same ",")
        | _ => exact hitem
      | _ => exact hitem
    | _ => exact hitem

end

/-! Forms. The marks of the two forms agree on parentheses, and differ in addresses. -/

theorem Alike.word {s t w : String} (h : Alike s t) : Alike (s ++ w) (t ++ w) := h.append (.same w)

theorem Alike.after {w s t : String} (h : Alike s t) : Alike (w ++ s) (w ++ t) := .append (.same w) h

theorem twin_unruled {p q : Piece} (h : Alike p.quoted q.quoted) :
    Twin Like (unruled p) (unruled q) :=
  twin_say h.after

section

variable {m m' : Marks} {a b c d a' b' c' d' : Piece} {s s' t t' : Seq}

theorem twin_group {k : Group} (hs : s.Pair s')
    (hquoted : Alike (Form.quoted (.group k s) m) (Form.quoted (.group k s') m')) :
    Twin Like (Form.render (.group k s) m) (Form.render (.group k s') m') := by
  cases k with
  | program =>
    refine twin_bind (twin_actions hs) fun xs ys hxs => ?_
    exact twin_bind (twin_list "\n" (pair_present hxs)) fun _ _ h => twin_say h
  | block =>
    have hrows : Twin (List.Forall₂ Item.Pair) (do return present (← s.actions))
        (do return present (← s'.actions)) :=
      twin_bind (twin_actions hs) fun _ _ h => twin_pure (pair_present h)
    refine twin_bind (twin_indented "\n" hrows) fun _ _ h => ?_
    exact twin_bind (twin_braces h) fun _ _ h => twin_say h
  | vars =>
    refine twin_bind (twin_actions hs) fun xs ys hxs => ?_
    exact twin_bind (twin_list ", " (pair_present hxs)) fun _ _ h => twin_say h.after.word
  | plain | splice => exact twin_unruled hquoted

theorem twin_array (hs : s.Pair s') :
    Twin Like (Form.render (.array s) m) (Form.render (.array s') m') := by
  have hcells : Twin Like (do say ("[" ++ (← cells (← s.actions)) ++ "]"))
      (do say ("[" ++ (← cells (← s'.actions)) ++ "]")) :=
    twin_bind (twin_actions hs) fun _ _ hxs => twin_bind (twin_cells hxs) fun _ _ h =>
      twin_say h.after.word
  cases hs with
  | items | single => exact hcells
  | spread hp =>
    obtain ⟨r, π, π', rfl, rfl⟩ := hp.origin
    cases r with
    | node => exact twin_throw _
    | _ => exact hcells

theorem Seq.Pair.isTruthy_eq (hs : s.Pair s') : s.host.isTruthy = s'.host.isTruthy := by
  cases hs with
  | items hxs => cases hxs <;> rfl
  | spread hp => exact hp.isTruthy_eq
  | single hp => exact hp.isTruthy_eq

theorem twin_object (hs : s.Pair s') :
    Twin Like (Form.render (.object s) m) (Form.render (.object s') m') := by
  refine twin_bind (twin_indented ",\n" (twin_actions hs)) fun _ _ h => twin_step fun close => ?_
  rw [hs.isTruthy_eq]
  exact twin_say h.after.word.word.word

theorem twin_newExpr (ha : Pair a a') (hs : s.Pair s') :
    Twin Like (Form.render (.newExpr a s) m) (Form.render (.newExpr a' s') m') :=
  twin_bind ha.run fun _ _ ha => twin_bind (twin_actions hs) fun _ _ hxs =>
    twin_bind (twin_list ", " hxs) fun _ _ h => twin_say (ha.shown.after.word.append h).word

theorem twin_bracket (ha : Pair a a') (hb : Pair b b') :
    Twin Like (Form.render (.bracket a b) m) (Form.render (.bracket a' b') m') :=
  twin_bind ha.run fun _ _ ha => twin_bind hb.run fun _ _ hb =>
    twin_say (ha.shown.word.append hb.shown).word

theorem twin_varDecl (ha : Pair a a') (hb : Pair b b') :
    Twin Like (Form.render (.varDecl a b) m) (Form.render (.varDecl a' b') m') := by
  refine twin_bind ha.run fun _ _ ha => twin_cond hb.isAbsent_eq ?_ ?_
  · exact twin_bind (twin_textOf ha) fun _ _ h => twin_say h
  · refine twin_bind hb.run fun _ _ hb => twin_bind (twin_textOf ha) fun _ _ h => ?_
    exact twin_say (h.word.append hb.shown)

theorem twin_ifThen (ha : Pair a a') (hb : Pair b b') (hc : Pair c c') :
    Twin Like (Form.render (.ifThen a b c) m) (Form.render (.ifThen a' b' c') m') := by
  refine ha.textOrEmpty fun _ _ ha => hb.text fun _ _ hb => ?_
  exact hc.markedOrEmpty (fun _ _ hc => twin_say ((ha.after.word.append hb).append hc)) " else "

theorem twin_doWhile (ha : Pair a a') (hb : Pair b b') :
    Twin Like (Form.render (.doWhile a b) m) (Form.render (.doWhile a' b') m') :=
  hb.text fun _ _ hb => twin_bind ha.run fun _ _ ha =>
    twin_say (hb.after.word.append ha.shown).word

theorem twin_whileDo (ha : Pair a a') (hb : Pair b b') :
    Twin Like (Form.render (.whileDo a b) m) (Form.render (.whileDo a' b') m') :=
  twin_bind ha.run fun _ _ ha => hb.text fun _ _ hb => twin_say (ha.shown.after.word.append hb)

theorem twin_withDo (ha : Pair a a') (hb : Pair b b') :
    Twin Like (Form.render (.withDo a b) m) (Form.render (.withDo a' b') m') :=
  twin_bind ha.run fun _ _ ha => hb.text fun _ _ hb => twin_say (ha.shown.after.word.append hb)

theorem twin_forLoop (ha : Pair a a') (hb : Pair b b') (hc : Pair c c') (hd : Pair d d') :
    Twin Like (Form.render (.forLoop a b c d) m) (Form.render (.forLoop a' b' c' d') m') := by
  have hgap : Alike (if a.isAbsent then " ; " else if a.isLoopStart then "; " else " ")
      (if a'.isAbsent then " ; " else if a'.isLoopStart then "; " else " ") := by
    rw [ha.isAbsent_eq, ha.isLoopStart_eq]
    exact .same _
  refine ha.textOrEmpty fun _ _ ha => hb.textOrEmpty fun _ _ hb => hc.textOrEmpty fun _ _ hc => ?_
  exact hd.text fun _ _ hd => twin_say (((((ha.after.append hgap).append hb).word.append hc).word).append hd)

theorem twin_forIn (ha : Pair a a') (hb : Pair b b') (hc : Pair c c') :
    Twin Like (Form.render (.forIn a b c) m) (Form.render (.forIn a' b' c') m') := by
  have hvar : Alike (if a.isVarDecl then "var " else "") (if a'.isVarDecl then "var " else "") := by
    rw [ha.isVarDecl_eq]
    exact .same _
  refine twin_bind ha.run fun _ _ ha => twin_bind hb.run fun _ _ hb => hc.text fun _ _ hc => ?_
  exact twin_say ((((hvar.after.append ha.shown).word.append hb.shown).word).append hc)

theorem twin_returns (ha : Pair a a') :
    Twin Like (Form.render (.returns a) m) (Form.render (.returns a') m') :=
  twin_cond ha.isAbsent_eq (twin_say (.same _))
    (twin_bind ha.run fun _ _ ha => twin_say ha.shown.after.word)

theorem twin_label (ha : Pair a a') (hb : Pair b b') :
    Twin Like (Form.render (.label a b) m) (Form.render (.label a' b') m') :=
  twin_bind ha.run fun _ _ ha => twin_bind hb.run fun _ _ hb =>
    twin_say (ha.shown.word.append hb.shown)

theorem twin_throws (ha : Pair a a') :
    Twin Like (Form.render (.throws a) m) (Form.render (.throws a') m') :=
  twin_bind ha.run fun _ _ ha => twin_say ha.shown.after.word

theorem twin_exprStatement (ha : Pair a a') :
    Twin Like (Form.render (.exprStatement a) m) (Form.render (.exprStatement a') m') :=
  twin_bind ha.run fun _ _ ha => twin_say ha.shown.word

theorem twin_tryDo (ha : Pair a a') (hb : Pair b b') (hc : Pair c c') :
    Twin Like (Form.render (.tryDo a b c) m) (Form.render (.tryDo a' b' c') m') := by
  refine ha.text fun _ _ ha => hb.markedOrEmpty (fun _ _ hb => ?_) " "
  exact hc.markedOrEmpty (fun _ _ hc => twin_say ((ha.after.append hb).append hc)) " "

/-! Cases -/

theorem alike_caseText {x y : Piece} (hx : Alike x.shown y.shown) {u v : String} (h : Alike u v) :
    Alike (caseText x u) (caseText y v) := by
  unfold caseText
  rw [h.isEmpty_eq]
  refine hx.after.word.append ?_
  split_ifs
  · exact .same _
  · exact h.word

theorem twin_case (ha : Pair a a') (hs : s.Pair s') :
    Twin Alike (do
      let test ← a.render
      let body ← indented "\n" s.actions
      return caseText test body) (do
      let test ← a'.render
      let body ← indented "\n" s'.actions
      return caseText test body) :=
  twin_bind ha.run fun _ _ ha => twin_bind (twin_body hs) fun _ _ h =>
    twin_pure (alike_caseText ha.shown h)

theorem twin_default (hs : s.Pair s') :
    Twin Alike (do
      let m ← margin
      let body ← indented "\n" s.actions
      return m ++ "default:\n" ++ body ++ "\n") (do
      let m ← margin
      let body ← indented "\n" s'.actions
      return m ++ "default:\n" ++ body ++ "\n") :=
  twin_step fun _ => twin_bind (twin_body hs) fun _ _ h => twin_pure h.after.word

theorem twin_switch (ha : Pair a a') (hs : s.Pair s') (hb : Pair b b') :
    Twin Like (Form.render (.switch a s b) m) (Form.render (.switch a' s' b') m') := by
  refine twin_bind ha.run fun x y hx => twin_step fun _ => ?_
  refine twin_bind (twin_actions hs) fun _ _ hxs => twin_bind (twin_cases hxs) fun i j hi => ?_
  have hend {u v : String} (hu : Alike u v) : Twin Like (do
        shallower
        say ("switch (" ++ x.shown ++ ") \x7b\n" ++ i ++ u ++ (← margin) ++ "\x7d")) (do
        shallower
        say ("switch (" ++ y.shown ++ ") \x7b\n" ++ j ++ v ++ (← margin) ++ "\x7d")) :=
    twin_step fun _ => twin_step fun _ =>
      twin_say ((hx.shown.after.word.append hi).append hu).word.word
  refine twin_cond hb.isAbsent_eq ?_ ?_
  · exact twin_bind (twin_pure (.same "")) fun _ _ hu => hend hu
  · exact twin_bind hb.asDefault fun _ _ hu => hend hu

theorem twin_caseOf (ha : Pair a a') (hs : s.Pair s') :
    Twin Like (Form.render (.caseOf a s) m) (Form.render (.caseOf a' s') m') :=
  twin_bind ha.run fun _ _ ha => twin_bind (twin_body hs) fun _ _ h =>
    twin_say (alike_caseText ha.shown h)

theorem twin_defaultCase (hs : s.Pair s') :
    Twin Like (Form.render (.defaultCase s) m) (Form.render (.defaultCase s') m') :=
  twin_step fun _ => twin_bind (twin_body hs) fun _ _ h => twin_say h.after.word

/-! What stands in the place of a list -/

theorem Seq.Pair.alike_host (hs : s.Pair s') : Alike s.host.quoted s'.host.quoted := by
  cases hs with
  | items hxs =>
    have hparts := List.forall₂_map_left_iff.2 (List.forall₂_map_right_iff.2 (hxs.imp fun _ _ h => h.quoted))
    simp only [← quotedAll_eq_map] at hparts
    exact (alike_intercalate ", " hparts).after.word
  | spread hp => exact hp.quoted
  | single hp => exact hp.quoted

theorem twin_renderHost (hs : s.Pair s') : Twin Like s.renderHost s'.renderHost := by
  cases hs with
  | items hxs => exact twin_unruled (Seq.Pair.items hxs).alike_host
  | spread hp => exact hp.run
  | single hp => exact hp.run

theorem twin_catchDo (ha : Pair a a') (hs : s.Pair s') :
    Twin Like (Form.render (.catchDo a s) m) (Form.render (.catchDo a' s') m') :=
  twin_bind ha.run fun _ _ ha => twin_bind (twin_renderHost hs) fun _ _ hs =>
    twin_say (ha.shown.after.word.append hs.shown)

theorem twin_finallyDo (hs : s.Pair s') :
    Twin Like (Form.render (.finallyDo s) m) (Form.render (.finallyDo s') m') :=
  twin_bind (twin_renderHost hs) fun _ _ hs => twin_say hs.shown.after

/-! Jumps -/

theorem twin_continueTo (ha : Pair a a') :
    Twin Like (Form.render (.continueTo a) m) (Form.render (.continueTo a') m') :=
  twin_cond ha.isAbsent_eq (twin_say (.same _))
    (twin_bind ha.value fun _ _ hv => twin_say hv.after.word)

theorem twin_breakTo (ha : Pair a a') :
    Twin Like (Form.render (.breakTo a) m) (Form.render (.breakTo a') m') :=
  twin_cond ha.isAbsent_eq (twin_say (.same _))
    (twin_bind ha.value fun _ _ hv => twin_say hv.after.word)

end

section

variable {m m' : Marks} (hm : m.parens = m'.parens)

include hm

theorem Alike.wrap {s t : String} (h : Alike s t) : Alike (m.wrap s) (m'.wrap t) := by
  unfold Marks.wrap
  rw [hm]
  split_ifs
  · exact h.after.word
  · exact h

theorem twin_leaf {k : Leaf} {v v' : Piece} (hv : Pair v v')
    (hquoted : Alike (Form.quoted (.leaf k v) m) (Form.quoted (.leaf k v') m')) :
    Twin Like (k.render v m) (k.render v' m') := by
  cases k with
  | null => exact twin_say (.same _)
  | debugger => exact twin_say hv.like.shown.word
  | regex => exact twin_cond hm (twin_say hv.like.shown.after.word) (twin_pure hv.like)
  | elision => exact twin_unruled hquoted
  | _ => exact twin_pure hv.like

variable {a b c a' b' c' : Piece} {s s' t t' : Seq}

theorem twin_call (ha : Pair a a') (hs : s.Pair s') :
    Twin Like (Form.render (.call a s) m) (Form.render (.call a' s') m') :=
  twin_bind ha.run fun _ _ ha => twin_bind (twin_actions hs) fun _ _ hxs =>
    twin_bind (twin_list ", " hxs) fun _ _ h => twin_say ((ha.shown.word.append h).word.wrap hm)

theorem twin_dot (ha : Pair a a') (hb : Pair b b') :
    Twin Like (Form.render (.dot a b) m) (Form.render (.dot a' b') m') :=
  twin_bind ha.run fun _ _ ha => twin_bind hb.run fun _ _ hb =>
    twin_say ((ha.shown.word.append hb.shown).wrap hm)

theorem twin_comma (ha : Pair a a') (hb : Pair b b') :
    Twin Like (Form.render (.comma a b) m) (Form.render (.comma a' b') m') :=
  twin_bind ha.run fun _ _ ha => twin_bind hb.run fun _ _ hb =>
    twin_say ((ha.shown.word.append hb.shown).wrap hm)

theorem twin_assign (ha : Pair a a') (hb : Pair b b') (hc : Pair c c') :
    Twin Like (Form.render (.assign a b c) m) (Form.render (.assign a' b' c') m') := by
  refine twin_bind hb.run fun x y hx => twin_bind hc.run fun u v hu => twin_say (.wrap hm ?_)
  refine ((hx.shown.append ?_).append ha.like.shown).word.append hu.shown
  -- The colon of a property is a text, and that is the same at every address.
  obtain ⟨r, π, π', rfl, rfl⟩ := ha.origin
  cases r <;> exact .same _

theorem twin_unary (ha : Pair a a') (hb : Pair b b') (hc : Pair c c') :
    Twin Like (Form.render (.unary a b c) m) (Form.render (.unary a' b' c') m') := by
  refine twin_bind hb.run fun _ _ hb => twin_cond hc.isTruthy_eq ?_ (twin_cond ha.isWordOp_eq ?_ ?_)
  · refine twin_bind (twin_textOf hb) fun _ _ hs => twin_bind (twin_textOf ha.like) fun _ _ ho => ?_
    exact twin_say ((hs.append ho).wrap hm)
  · exact twin_say ((ha.like.shown.word.append hb.shown).wrap hm)
  · exact twin_say ((ha.like.shown.append hb.shown).wrap hm)

theorem twin_binary (ha : Pair a a') (hb : Pair b b') (hc : Pair c c') :
    Twin Like (Form.render (.binary a b c) m) (Form.render (.binary a' b' c') m') :=
  twin_bind hb.run fun _ _ hb => twin_bind hc.run fun _ _ hc =>
    twin_say (((hb.shown.word.append ha.like.shown).word.append hc.shown).wrap hm)

theorem twin_conditional (ha : Pair a a') (hb : Pair b b') (hc : Pair c c') :
    Twin Like (Form.render (.conditional a b c) m) (Form.render (.conditional a' b' c') m') :=
  twin_bind ha.run fun _ _ ha => twin_bind hb.run fun _ _ hb => twin_bind hc.run fun _ _ hc =>
    twin_say (((ha.shown.word.append hb.shown).word.append hc.shown).wrap hm)

theorem twin_getter (ha : Pair a a') (hs : s.Pair s') :
    Twin Like (Form.render (.getter a s) m) (Form.render (.getter a' s') m') :=
  twin_bind (twin_body hs) fun _ _ h => twin_step fun _ => twin_bind ha.run fun _ _ ha =>
    twin_say ((((ha.shown.after.word).append h).word.word.word).wrap hm)

theorem twin_function {k : Function} (ha : Pair a a') (hs : s.Pair s') (ht : t.Pair t')
    (hquoted : Alike (Form.quoted (.function k a s t) m) (Form.quoted (.function k a' s' t') m')) :
    Twin Like (Form.render (.function k a s t) m) (Form.render (.function k a' s' t') m') := by
  cases k with
  | base => exact twin_unruled hquoted
  | decl =>
    refine twin_bind (twin_body ht) fun _ _ h => twin_bind ha.run fun _ _ ha => ?_
    refine twin_bind (twin_actions hs) fun _ _ hxs => twin_bind (twin_list ", " hxs) fun _ _ hp => ?_
    exact twin_bind (twin_braces h) fun _ _ h => twin_say ((ha.shown.after.word.append hp).word.append h)
  | expr =>
    refine twin_bind (twin_body ht) fun x y h => ?_
    have hend {u v : String} (hu : Alike u v) : Twin Like (do
          let params ← list ", " (← s.actions)
          say (m.wrap ("function" ++ u ++ "(" ++ params ++ ") " ++ (← braces x)))) (do
          let params ← list ", " (← s'.actions)
          say (m'.wrap ("function" ++ v ++ "(" ++ params ++ ") " ++ (← braces y)))) := by
      refine twin_bind (twin_actions hs) fun _ _ hxs => twin_bind (twin_list ", " hxs) fun _ _ hp => ?_
      refine twin_bind (twin_braces h) fun _ _ h => twin_say (.wrap hm ?_)
      exact (hu.after.word.append hp).word.append h
    exact twin_cond ha.isAbsent_eq (hend (.same "")) (twin_bind ha.run fun _ _ ha => hend ha.shown.after)

end

/-! Trees -/

section

variable {f : Form} {F : Form → Prop} {A : Atom → Prop} {π π' : Placement}

theorem pair_seq {s : Seq} (h : ∀ p ∈ s.pieces, ∀ ρ ρ', Pair (p.placed ρ) (p.placed ρ')) :
    (s.placed π).Pair (s.placed π') := by
  cases s with
  | items xs => exact .items (forall₂_placedAll h)
  | spread host xs =>
    exact .spread (h host (.head _) _ _) (forall₂_placedAll fun p hp => h p (.tail _ hp))
  | single host => exact .single (h host (.head _) _ _)

/-- One form at two placements, its parts being given. -/
theorem twin_form (hf : ∀ n ps b, f ≠ .setter n ps b)
    (h : ∀ p ∈ f.pieces, ∀ ρ ρ', Pair (p.placed ρ) (p.placed ρ')) {m m' : Marks}
    (hm : m.parens = m'.parens) (hquoted : Alike ((f.placed π).quoted m) ((f.placed π').quoted m')) :
    Twin Like ((f.placed π).render m) ((f.placed π').render m') := by
  cases f with
  | leaf k v => exact twin_leaf hm (h v (.head _) _ _) hquoted
  | group k s => exact twin_group (pair_seq h) hquoted
  | array s => exact twin_array (pair_seq h)
  | object s => exact twin_object (pair_seq h)
  | newExpr c s => exact twin_newExpr (h c (.head _) _ _) (pair_seq fun q hq => h q (.tail _ hq))
  | call c s => exact twin_call hm (h c (.head _) _ _) (pair_seq fun q hq => h q (.tail _ hq))
  | bracket t n => exact twin_bracket (h t (.head _) _ _) (h n (.tail _ (.head _)) _ _)
  | dot t n => exact twin_dot hm (h t (.head _) _ _) (h n (.tail _ (.head _)) _ _)
  | assign op l r =>
    exact twin_assign hm (h op (.head _) _ _) (h l (.tail _ (.head _)) _ _)
      (h r (.tail _ (.tail _ (.head _))) _ _)
  | getter n b => exact twin_getter hm (h n (.head _) _ _) (pair_seq fun q hq => h q (.tail _ hq))
  | setter n ps b => exact absurd rfl (hf n ps b)
  | varDecl n v => exact twin_varDecl (h n (.head _) _ _) (h v (.tail _ (.head _)) _ _)
  | unary op x t =>
    exact twin_unary hm (h op (.head _) _ _) (h x (.tail _ (.head _)) _ _)
      (h t (.tail _ (.tail _ (.head _))) _ _)
  | binary op l r =>
    exact twin_binary hm (h op (.head _) _ _) (h l (.tail _ (.head _)) _ _)
      (h r (.tail _ (.tail _ (.head _))) _ _)
  | conditional t y n =>
    exact twin_conditional hm (h t (.head _) _ _) (h y (.tail _ (.head _)) _ _)
      (h n (.tail _ (.tail _ (.head _))) _ _)
  | ifThen t y n =>
    exact twin_ifThen (h t (.head _) _ _) (h y (.tail _ (.head _)) _ _)
      (h n (.tail _ (.tail _ (.head _))) _ _)
  | doWhile t b => exact twin_doWhile (h t (.head _) _ _) (h b (.tail _ (.head _)) _ _)
  | whileDo t b => exact twin_whileDo (h t (.head _) _ _) (h b (.tail _ (.head _)) _ _)
  | forLoop a t s b =>
    exact twin_forLoop (h a (.head _) _ _) (h t (.tail _ (.head _)) _ _)
      (h s (.tail _ (.tail _ (.head _))) _ _) (h b (.tail _ (.tail _ (.tail _ (.head _)))) _ _)
  | forIn x s b =>
    exact twin_forIn (h x (.head _) _ _) (h s (.tail _ (.head _)) _ _)
      (h b (.tail _ (.tail _ (.head _))) _ _)
  | continueTo l => exact twin_continueTo (h l (.head _) _ _)
  | breakTo l => exact twin_breakTo (h l (.head _) _ _)
  | returns v => exact twin_returns (h v (.head _) _ _)
  | withDo s b => exact twin_withDo (h s (.head _) _ _) (h b (.tail _ (.head _)) _ _)
  | switch e cs d =>
    exact twin_switch (h e (.head _) _ _) (pair_seq fun q hq => h q (.tail _ (.tail _ hq)))
      (h d (.tail _ (.head _)) _ _)
  | caseOf e b => exact twin_caseOf (h e (.head _) _ _) (pair_seq fun q hq => h q (.tail _ hq))
  | defaultCase b => exact twin_defaultCase (pair_seq h)
  | label n b => exact twin_label (h n (.head _) _ _) (h b (.tail _ (.head _)) _ _)
  | throws v => exact twin_throws (h v (.head _) _ _)
  | tryDo b c f =>
    exact twin_tryDo (h b (.head _) _ _) (h c (.tail _ (.head _)) _ _)
      (h f (.tail _ (.tail _ (.head _))) _ _)
  | catchDo n b => exact twin_catchDo (h n (.head _) _ _) (pair_seq fun q hq => h q (.tail _ hq))
  | finallyDo b => exact twin_finallyDo (pair_seq h)
  | function k n ps b =>
    exact twin_function hm (h n (.head _) _ _)
      (pair_seq fun q hq => h q (.tail _ (List.mem_append_left _ hq)))
      (pair_seq fun q hq => h q (.tail _ (List.mem_append_right _ hq))) hquoted
  | comma l r => exact twin_comma hm (h l (.head _) _ _) (h r (.tail _ (.head _)) _ _)
  | exprStatement v => exact twin_exprStatement (h v (.head _) _ _)
  | this => exact twin_say (.same _)

/-- A part that a form in the place of a case is read by, before that fails. -/
theorem twin_notCase {p q : Piece} (h : Pair p q) :
    Twin Alike (do let _ ← p.render; deeper; throw .missingAttribute)
      (do let _ ← q.render; deeper; throw .missingAttribute) :=
  twin_bind h.run fun _ _ _ => twin_step fun _ => twin_throw _

theorem twin_renderCase (h : ∀ p ∈ f.pieces, ∀ ρ ρ', Pair (p.placed ρ) (p.placed ρ')) (m : Marks) :
    Twin Alike ((Piece.node f m).placed π).renderCase ((Piece.node f m).placed π').renderCase := by
  cases f with
  | caseOf e b => exact twin_case (h e (.head _) _ _) (pair_seq fun q hq => h q (.tail _ hq))
  | bracket t e => exact twin_notCase (h e (.tail _ (.head _)) _ _)
  | returns e | withDo e | switch e | throws e | exprStatement e =>
    exact twin_notCase (h e (.head _) _ _)
  | _ => exact twin_throw _

theorem twin_renderDefault (h : ∀ p ∈ f.pieces, ∀ ρ ρ', Pair (p.placed ρ) (p.placed ρ'))
    (m : Marks) : Twin Alike ((Piece.node f m).placed π).renderDefault
      ((Piece.node f m).placed π').renderDefault := by
  cases f with
  | defaultCase b | finallyDo b => exact twin_default (pair_seq h)
  | caseOf e b | getter e b | catchDo e b => exact twin_default (pair_seq fun q hq => h q (.tail _ hq))
  | setter n ps b | function k n ps b =>
    exact twin_default (pair_seq fun q hq => h q (.tail _ (List.mem_append_right _ hq)))
  | _ => exact twin_step fun _ => twin_throw _

theorem twin_value (h : ∀ p ∈ f.pieces, ∀ ρ ρ', Pair (p.placed ρ) (p.placed ρ')) (m : Marks) :
    Twin (fun v w => Alike v.shown w.shown) (liftM ((Piece.node f m).placed π).value : Render Piece)
      (liftM ((Piece.node f m).placed π').value) := by
  cases f with
  | leaf k v => exact twin_pure (h v (.head _) _ _).like.shown
  | unary op v t => exact twin_pure (h v (.tail _ (.head _)) _ _).like.shown
  | _ => exact twin_throw _

/-- A tree without setters is rendered alike at every address. -/
theorem Piece.All.pair {p : Piece} (h : p.All F A) (hF : ∀ n ps b, ¬ F (.setter n ps b))
    (π π' : Placement) : Pair (p.placed π) (p.placed π') := by
  have hquoted := h.alike_quoted π π'
  have hshown := h.alike_shown π π'
  induction h generalizing π π' with
  | @atom a ha =>
    refine ⟨⟨_, π, π', rfl, rfl⟩, hquoted, ?_, twin_unruled hquoted, twin_throw _,
      twin_step fun _ => twin_throw _, twin_throw _⟩
    cases a with
    | text s => exact .text (.same s)
    | _ => exact .other nofun nofun hshown
  | record hes =>
    exact ⟨⟨_, π, π', rfl, rfl⟩, hquoted, .other nofun nofun hshown, twin_unruled hquoted,
      twin_throw _, twin_step fun _ => twin_throw _, twin_throw _⟩
  | items hxs ih =>
    exact ⟨⟨_, π, π', rfl, rfl⟩, hquoted, .other nofun nofun hshown, twin_unruled hquoted,
      twin_throw _, twin_step fun _ => twin_throw _, twin_throw _⟩
  | @node f m hf hps ih =>
    have hparts : ∀ p ∈ f.pieces, ∀ ρ ρ', Pair (p.placed ρ) (p.placed ρ') := fun p hp ρ ρ' =>
      ih p hp ρ ρ' ((hps p hp).alike_quoted ρ ρ') ((hps p hp).alike_shown ρ ρ')
    refine ⟨⟨_, π, π', rfl, rfl⟩, hquoted, .other nofun nofun hshown, ?_, twin_renderCase hparts m,
      twin_renderDefault hparts m, twin_value hparts m⟩
    exact twin_form (by rintro n ps b rfl; exact hF n ps b hf) hparts rfl hquoted

end

end Transpile.Script
