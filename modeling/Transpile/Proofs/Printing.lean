import Transpile.Walk.Stmt
import Transpile.Script.Render
import Mathlib.Data.List.Forall2
import Mathlib.Tactic.Common

/-! Rendering that cannot fail. Each form is rendered as text if its parts are, and leaves the level
at which it started. -/

namespace Transpile.Script

open Render

section

variable {α β : Type} {unit : String} {level : Nat}

/-- At the level, with the text of one level, the rendering gives the result and ends at the level. -/
def Shows (unit : String) (level : Nat) (w : Render α) (a : α) : Prop := w unit level = (.ok a, level)

theorem shows_pure (a : α) : Shows unit level (pure a) a := rfl

theorem shows_say (s : String) : Shows unit level (say s) (.text s) := rfl

theorem shows_textOf (s : String) : Shows unit level (textOf (.text s)) s := rfl

theorem shows_bind {w : Render α} {f : α → Render β} {a : α} {b : β} (hw : Shows unit level w a)
    (hf : Shows unit level (f a) b) : Shows unit level (w >>= f) b := by
  have h : (w >>= f) unit level =
      ExceptT.bindCont (fun a => f a unit) (w unit level).1 (w unit level).2 := rfl
  unfold Shows at *
  rw [h, hw]
  exact hf

theorem shows_unique {w : Render α} {a b : α} (ha : Shows unit level w a)
    (hb : Shows unit level w b) : a = b :=
  Except.ok.inj (congrArg Prod.fst (ha.symm.trans hb))

theorem shows_mapM {f : α → Render β} {as : List α} {bs : List β}
    (h : List.Forall₂ (fun a b => Shows unit level (f a) b) as bs) :
    Shows unit level (as.mapM f) bs := by
  induction h with
  | nil => exact shows_pure _
  | cons hab _ ih =>
    rw [List.mapM_cons]
    exact shows_bind hab (shows_bind ih (shows_pure _))

/-- The piece is rendered as the text. -/
def Prints (unit : String) (level : Nat) (p : Piece) (s : String) : Prop :=
  Shows unit level p.render (.text s)

theorem shows_each {ps : List Piece} {ss : List String}
    (h : List.Forall₂ (Prints unit level) ps ss) :
    Shows unit level (each (actionsOf ps)) (ss.map .text) := by
  refine shows_mapM ?_
  induction h with
  | nil => exact .nil
  | cons hp _ ih => exact .cons hp ih

theorem shows_list {ps : List Piece} {ss : List String} (h : List.Forall₂ (Prints unit level) ps ss)
    (sep : String) : Shows unit level (list sep (actionsOf ps)) (sep.intercalate ss) := by
  refine shows_bind (shows_each h) (shows_bind (a := ss) (shows_mapM ?_) (shows_pure _))
  rw [List.forall₂_map_left_iff]
  exact List.forall₂_same.2 fun s _ => shows_textOf s

theorem present_actionsOf {ps : List Piece} (hps : ∀ p ∈ ps, p.isAbsent = false) :
    present (actionsOf ps) = actionsOf ps := by
  induction ps with
  | nil => rfl
  | cons p ps ih =>
    have hrest := ih fun q hq => hps q (by simp [hq])
    simp only [present] at hrest
    simp [present, actionsOf, hps p (by simp), hrest]

theorem prints_ident (s : String) (m : Marks) :
    Prints unit level (.node (.leaf .ident (.text s)) m) s := rfl

theorem prints_number (s : String) : Prints unit level (Walk.leaf .number s) s := rfl

theorem prints_binary {l r : Piece} {a b : String} (hl : Prints unit level l a)
    (hr : Prints unit level r b) (op : String) (m : Marks) :
    Prints unit level (.node (.binary (.text op) l r) m) (m.wrap (a ++ " " ++ op ++ " " ++ b)) :=
  shows_bind hl (shows_bind hr (shows_say _))

theorem prints_assign {l r : Piece} {a b : String} (hl : Prints unit level l a)
    (hr : Prints unit level r b) {op : String} (hop : op ≠ ":") (m : Marks) :
    Prints unit level (.node (.assign (.text op) l r) m) (m.wrap (a ++ " " ++ op ++ " " ++ b)) := by
  refine shows_bind hl (shows_bind hr ?_)
  split
  · next h => exact absurd (by simpa using h) hop
  · exact shows_say _

theorem prints_unary {x : Piece} {a : String} (hx : Prints unit level x a) {op : String}
    (hop : op ∉ ["delete", "void", "typeof"]) (m : Marks) :
    Prints unit level (.node (.unary (.text op) x (.atom (.flag false))) m) (m.wrap (op ++ a)) := by
  have hword : isWordOp (.text op) = false := by
    simp only [List.mem_cons, List.not_mem_nil, or_false, not_or] at hop
    simp [isWordOp, hop]
  refine shows_bind hx ?_
  simp only [Piece.isTruthy, Atom.isTruthy, hword, Bool.false_eq_true, if_false]
  exact shows_say _

theorem prints_call {f : Piece} {a : String} {ps : List Piece} {ss : List String}
    (hf : Prints unit level f a) (hps : List.Forall₂ (Prints unit level) ps ss) (m : Marks) :
    Prints unit level (.node (.call f (.items ps)) m)
      (m.wrap (a ++ "(" ++ ", ".intercalate ss ++ ")")) :=
  shows_bind hf (shows_bind (shows_pure _) (shows_bind (shows_list hps ", ") (shows_say _)))

theorem prints_dot {t n : Piece} {a b : String} (ht : Prints unit level t a)
    (hn : Prints unit level n b) (m : Marks) :
    Prints unit level (.node (.dot t n) m) (m.wrap (a ++ "." ++ b)) :=
  shows_bind ht (shows_bind hn (shows_say _))

theorem prints_statement {p : Piece} {a : String} (hp : Prints unit level p a) :
    Prints unit level (Walk.statement p) (a ++ ";") :=
  shows_bind hp (shows_say _)

end

end Transpile.Script
