import AngularScaffold.Angular.Source

/-!
Drafts written step by step. A step writes something or changes the level; a block wraps further
steps into a decorator. Main statement: steps only add pieces at the end, also when they fail.
-/

namespace AngularScaffold.Angular

open Layout

inductive StepError where
  | property (error : PropertyError)
  | stopped (message : String)
  deriving DecidableEq

inductive Step where
  | line (text : String)
  | raw (text : String)
  | startLine
  | endLine
  | indent
  | dedent
  | fragments (fs : List Fragment)
  | properties (ps : List Property)
  | config (shape : Shape) (config : Config)
  | decorator (kind : ClassKind) (config : Config)
  | route (r : Route)
  | routes (rs : List Route)
  | block (name : String) (body : List Step) (failure : Option String)

abbrev Progress := Draft × Option StepError

namespace Step

instance : Inhabited Step := ⟨.endLine⟩

def addIfAny (d : Draft) : Except PropertyError (List Piece) → Progress
  | .ok pieces => (d.add pieces, none)
  | .error e => (d, some (.property e))

def close (failure : Option String) : Progress → Progress
  -- after a failure the closing line is not written and the level stays
  | (d, some e) => (d, some e)
  | (d, none) => match failure with
    | some message => (d, some (.stopped message))
    | none => (d.dedent.line "\x7d)", none)

mutual

def run : Step → Draft → Progress
  | line text, d => (d.line text, none)
  | raw text, d => (d.add [Layout.raw text], none)
  | startLine, d => (d.add [⟨d.level, ""⟩], none)
  | endLine, d => (d.add [Layout.blank], none)
  | indent, d => (d.indent, none)
  | dedent, d => (d.dedent, none)
  | fragments fs, d => (d.fragments fs, none)
  | properties ps, d => (d.add (propertyPieces d.level ps), none)
  | config shape c, d => addIfAny d (configPieces shape c d.level)
  | decorator kind c, d => addIfAny d (decoratorPieces kind c d.level)
  | route r, d => (d.add (routePieces d.level r), none)
  | routes rs, d => (d.add (routeTable d.level rs), none)
  | block name body failure, d =>
    close failure (runAll body (d.line ("@" ++ name ++ "(\x7b")).indent)

def runAll : List Step → Draft → Progress
  | [], d => (d, none)
  | s :: rest, d => match run s d with
    | (d, some e) => (d, some e)
    | (d, none) => runAll rest d

end

theorem prefix_addIfAny (d : Draft) (pieces : Except PropertyError (List Piece)) :
    d.pieces <+: (addIfAny d pieces).1.pieces := by
  cases pieces <;> simp [addIfAny]

theorem prefix_close (failure : Option String) (p : Progress) :
    p.1.pieces <+: (close failure p).1.pieces := by
  obtain ⟨d, e⟩ := p
  cases e <;> cases failure <;> simp [close, Draft.line]

mutual

theorem prefix_run (s : Step) (d : Draft) : d.pieces <+: (run s d).1.pieces := by
  cases s with
  | block name body failure =>
    rw [run]
    refine List.IsPrefix.trans ?_ (prefix_close failure _)
    refine List.IsPrefix.trans ?_ (prefix_runAll body _)
    simp [Draft.line]
  | config shape c => exact prefix_addIfAny d _
  | decorator kind c => exact prefix_addIfAny d _
  | indent => exact List.prefix_rfl
  | dedent => exact List.prefix_rfl
  | line text => simp [run, Draft.line]
  | fragments fs => simp [run, Draft.fragments]
  | raw text => simp [run]
  | startLine => simp [run]
  | endLine => simp [run]
  | properties ps => simp [run]
  | route r => simp [run]
  | routes rs => simp [run]

theorem prefix_runAll (steps : List Step) (d : Draft) : d.pieces <+: (runAll steps d).1.pieces := by
  cases steps with
  | nil => exact List.prefix_rfl
  | cons s rest =>
    rw [runAll]
    have h := prefix_run s d
    split
    · rename_i e he
      rw [he] at h
      exact h
    · rename_i d' he
      rw [he] at h
      exact h.trans (prefix_runAll rest d')

end

end Step

end AngularScaffold.Angular
