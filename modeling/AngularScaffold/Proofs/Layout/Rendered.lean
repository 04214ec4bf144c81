import AngularScaffold.Layout.Draft

namespace AngularScaffold.Layout

theorem render_append (i : Indent) (ps qs : List Piece) : render i (ps ++ qs) = render i ps ++ render i qs := by
  simp [render, String.join_append]

theorem render_cons (i : Indent) (p : Piece) (ps : List Piece) : render i (p :: ps) = p.render i ++ render i ps := by
  simp [render, String.join_cons]

theorem render_line_zero (i : Indent) (text : String) : (line 0 text).render i = text ++ "\n" := by
  simp [line, Piece.render, Indent.levels]

theorem render_line (i : Indent) (text : String) : render i [line 0 text] = text ++ "\n" := by
  rw [render_cons, render_line_zero]
  exact String.append_empty

theorem render_raw (i : Indent) (text : String) : render i [raw text] = text := by
  simp [render, raw, Piece.render, Indent.levels]

theorem render_blank (i : Indent) : render i [blank] = "\n" := render_raw i "\n"

def linesAt (i : Indent) (level : Nat) (lines : List String) : String :=
  String.join (lines.map fun l => String.join (List.replicate level i.unit) ++ l ++ "\n")

@[simp] theorem linesAt_nil (i : Indent) (level : Nat) : linesAt i level [] = "" := rfl

theorem linesAt_cons (i : Indent) (level : Nat) (l : String) (ls : List String) :
    linesAt i level (l :: ls) = i.levels level ++ l ++ "\n" ++ linesAt i level ls := by
  rw [linesAt, List.map_cons, String.join_cons]
  rfl

theorem linesAt_append (i : Indent) (level : Nat) (ls more : List String) :
    linesAt i level (ls ++ more) = linesAt i level ls ++ linesAt i level more := by
  rw [linesAt, List.map_append, String.join_append]
  rfl

theorem render_lines (i : Indent) (level : Nat) (lines : List String) :
    render i (lines.map (line level)) = linesAt i level lines := by
  simp [render, linesAt, line, Piece.render, Indent.levels, Function.comp_def, String.append_assoc]

theorem linesAt_zero (i : Indent) (l : String) : linesAt i 0 [l] = l ++ "\n" := by
  rw [← render_lines]
  exact render_line i l

namespace Draft

theorem text_add (i : Indent) (d : Draft) (ps : List Piece) : (d.add ps).text i = d.text i ++ render i ps :=
  render_append i d.pieces ps

theorem text_line (i : Indent) (d : Draft) (l : String) :
    (d.line l).text i = d.text i ++ (i.levels d.level ++ l ++ "\n") := by
  have hline := render_lines i d.level [l]
  rw [linesAt_cons, linesAt_nil, String.append_empty] at hline
  exact (text_add i d _).trans (congrArg (d.text i ++ ·) hline)

@[simp] theorem level_line (d : Draft) (l : String) : (d.line l).level = d.level := rfl
@[simp] theorem text_indent (i : Indent) (d : Draft) : d.indent.text i = d.text i := rfl
@[simp] theorem text_dedent (i : Indent) (d : Draft) : d.dedent.text i = d.text i := rfl

end Draft

end AngularScaffold.Layout
