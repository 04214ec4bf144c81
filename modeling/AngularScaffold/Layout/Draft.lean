/-!
Source text in the making. A draft holds pieces of text, each with the level it is indented by, and
the level of the line that comes next. What one level looks like is decided only when the draft is
rendered.
-/

namespace AngularScaffold.Layout

inductive Indent where
  | spaces (count : Nat)
  | tab
  deriving DecidableEq

namespace Indent

def unit : Indent → String
  -- any other count means two
  | spaces 4 => "    "
  | spaces 8 => "        "
  | spaces _ => "  "
  | tab => "\t"

instance : Inhabited Indent := ⟨spaces 2⟩

def levels (i : Indent) (level : Nat) : String :=
  String.join (List.replicate level i.unit)

end Indent

structure Piece where
  level : Nat
  text : String
  deriving DecidableEq

def Piece.render (i : Indent) (p : Piece) : String :=
  i.levels p.level ++ p.text

def render (i : Indent) (pieces : List Piece) : String :=
  String.join (pieces.map (Piece.render i))

def line (level : Nat) (text : String) : Piece :=
  ⟨level, text ++ "\n"⟩

def raw (text : String) : Piece :=
  ⟨0, text⟩

def blank : Piece :=
  ⟨0, "\n"⟩

inductive Fragment where
  | line (text : String)
  | raw (text : String)

def Fragment.at (level : Nat) : Fragment → Piece
  | line text => Layout.line level text
  | raw text => Layout.raw text

structure Draft where
  level : Nat := 0
  pieces : List Piece := []

namespace Draft

instance : Inhabited Draft := ⟨{}⟩

def text (i : Indent) (d : Draft) : String :=
  render i d.pieces

def isEmpty (i : Indent) (d : Draft) : Bool :=
  (d.text i).isEmpty

def add (d : Draft) (pieces : List Piece) : Draft :=
  ⟨d.level, d.pieces ++ pieces⟩

def line (d : Draft) (text : String) : Draft :=
  d.add [Layout.line d.level text]

def fragments (d : Draft) (fs : List Fragment) : Draft :=
  d.add (fs.map (Fragment.at d.level))

def indent (d : Draft) : Draft :=
  ⟨d.level + 1, d.pieces⟩

def dedent (d : Draft) : Draft :=
  ⟨d.level - 1, d.pieces⟩

@[simp] theorem level_add (d : Draft) (ps : List Piece) : (d.add ps).level = d.level := rfl
@[simp] theorem pieces_add (d : Draft) (ps : List Piece) : (d.add ps).pieces = d.pieces ++ ps := rfl
@[simp] theorem level_indent (d : Draft) : d.indent.level = d.level + 1 := rfl
@[simp] theorem pieces_indent (d : Draft) : d.indent.pieces = d.pieces := rfl
@[simp] theorem level_dedent (d : Draft) : d.dedent.level = d.level - 1 := rfl
@[simp] theorem pieces_dedent (d : Draft) : d.dedent.pieces = d.pieces := rfl

end Draft

end AngularScaffold.Layout
