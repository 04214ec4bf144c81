import AngularScaffold.Proofs.Layout.Rendered

namespace AngularScaffold.Layout

inductive Stroke where
  | text (s : String)
  | margin
  | deeper
  | shallower

structure Page where
  level : Nat := 0
  text : String := ""

namespace Page

def strike (i : Indent) (p : Page) : Stroke → Page
  | .text s => ⟨p.level, p.text ++ s⟩
  | .margin => ⟨p.level, Nat.repeat (· ++ i.unit) p.level p.text⟩
  | .deeper => ⟨p.level + 1, p.text⟩
  | .shallower => ⟨p.level - 1, p.text⟩

def type (i : Indent) (p : Page) (ks : List Stroke) : Page :=
  ks.foldl (strike i) p

variable {i : Indent} {p : Page}

theorem type_append (ks more : List Stroke) : p.type i (ks ++ more) = (p.type i ks).type i more :=
  List.foldl_append

theorem type_cons (k : Stroke) (ks : List Stroke) : p.type i (k :: ks) = (p.strike i k).type i ks := rfl

theorem repeat_unit (i : Indent) (level : Nat) (text : String) :
    Nat.repeat (· ++ i.unit) level text = text ++ i.levels level := by
  induction level with
  | zero => simp [Nat.repeat, Indent.levels]
  | succ n ih =>
    rw [Nat.repeat, ih, Indent.levels, Indent.levels, List.replicate_succ', String.join_append, String.append_assoc]
    simp

theorem type_texts (p : Page) (ts : List String) :
    p.type i (ts.map .text) = ⟨p.level, p.text ++ String.join ts⟩ := by
  induction ts generalizing p with
  | nil => simp [type]
  | cons t ts ih => rw [List.map_cons, type_cons, ih, strike, String.join_cons, String.append_assoc]

end Page

/-- Strokes that set pieces, which depend on the level at most, and come back to the level at which they began. -/
def Sets (ks : List Stroke) (pieces : Nat → List Piece) : Prop :=
  ∀ (i : Indent) (p : Page), p.type i ks = ⟨p.level, p.text ++ render i (pieces p.level)⟩

theorem Sets.typed {ks : List Stroke} {pieces : Nat → List Piece} (h : Sets ks pieces) (i : Indent) :
    (Page.type i {} ks).text = render i (pieces 0) := by
  rw [h i]
  exact String.empty_append

theorem sets_nil : Sets [] fun _ => [] := by
  intro i p
  simp [Page.type, render]

theorem Sets.append {ks more : List Stroke} {ps qs : Nat → List Piece} (hk : Sets ks ps) (hm : Sets more qs) :
    Sets (ks ++ more) fun level => ps level ++ qs level := by
  intro i p
  rw [Page.type_append, hk i p, hm i, render_append, String.append_assoc]

theorem sets_flatMap {α : Type} {f : α → List Stroke} {g : α → Nat → List Piece} (h : ∀ x, Sets (f x) (g x))
    (xs : List α) : Sets (xs.flatMap f) fun level => xs.flatMap (g · level) := by
  induction xs with
  | nil => exact sets_nil
  | cons x xs ih => exact (h x).append ih

theorem sets_raw (text : String) : Sets [.text text] fun _ => [raw text] := by
  intro i p
  rw [render_raw]
  rfl

theorem sets_texts (ts : List String) {text : String} (h : String.join ts = text) :
    Sets (.margin :: (ts ++ ["\n"]).map .text) fun level => [line level text] := by
  intro i p
  rw [Page.type_cons, Page.type_texts, Page.strike, Page.repeat_unit, String.join_append, h]
  simp [render, line, Piece.render, String.append_assoc]

namespace Stroke

def line (text : String) : List Stroke :=
  [.margin, .text text, .text "\n"]

def inside (ks : List Stroke) : List Stroke :=
  .deeper :: (ks ++ [.shallower])

theorem sets_line (text : String) : Sets (Stroke.line text) fun level => [Layout.line level text] :=
  sets_texts [text] (by simp)

theorem sets_inside {ks : List Stroke} {pieces : Nat → List Piece} (h : Sets ks pieces) :
    Sets (inside ks) fun level => pieces (level + 1) := by
  intro i p
  rw [inside, Page.type_cons, Page.type_append, h i]
  rfl

end Stroke

end AngularScaffold.Layout
