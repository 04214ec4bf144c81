import AngularScaffold.Proofs.Angular.PropertyLines

/-!
Steps in nested blocks taken apart into moves, each at its level. Main statement: if all moves succeed, their lines
follow each other with every block in brackets of its own; if one fails, those before it have been made, and the
level is as many deeper as blocks have been left open.
-/

namespace AngularScaffold.Angular

open Layout

inductive Act where
  | opening (name : String)
  | closing
  | whole (s : Step)
  | stop (message : String)

structure Move where
  level : Nat
  act : Act

def Move.pieces? : Move → Except StepError (List Piece)
  | ⟨level, .opening name⟩ => .ok [line level ("@" ++ name ++ "(\x7b")]
  | ⟨level, .closing⟩ => .ok [line level "\x7d)"]
  | ⟨level, .whole s⟩ => match s.run ⟨level, []⟩ with
    | (d, none) => .ok d.pieces
    | (_, some e) => .error e
  | ⟨_, .stop message⟩ => .error (.stopped message)

namespace Step

mutual

def keepsLevel : Step → Bool
  | indent => false
  | dedent => false
  | block _ body _ => keepLevel body
  | _ => true

def keepLevel : List Step → Bool
  | [] => true
  | s :: rest => s.keepsLevel && keepLevel rest

end

mutual

def script (level : Nat) : Step → List Move
  | block name body failure =>
    ⟨level, .opening name⟩ :: (scriptAll (level + 1) body ++
      (failure.toList.map (⟨level + 1, .stop ·⟩) ++ [⟨level, .closing⟩]))
  | decorator kind c => match (Shape.ofClass kind).properties c with
    | .ok ps => [⟨level, .opening kind.decorator⟩, ⟨level + 1, .whole (.properties ps)⟩, ⟨level, .closing⟩]
    | .error _ => [⟨level, .whole (.decorator kind c)⟩]
  | s => [⟨level, .whole s⟩]

def scriptAll (level : Nat) : List Step → List Move
  | [] => []
  | s :: rest => script level s ++ scriptAll level rest

end

end Step

/-! ### Making moves in turn -/

def play : List Move → List Piece × Option (Nat × StepError)
  | [] => ([], none)
  | m :: rest => match m.pieces? with
    | .error e => ([], some (m.level, e))
    | .ok ps => (ps ++ (play rest).1, (play rest).2)

def after (d : Draft) : List Piece × Option (Nat × StepError) → Progress
  | (ps, none) => (d.add ps, none)
  | (ps, some (level, e)) => (⟨level, d.pieces ++ ps⟩, some e)

variable {ms : List Move}

theorem after_add (d : Draft) (ps : List Piece) (r : List Piece × Option (Nat × StepError)) :
    after (d.add ps) r = after d (ps ++ r.1, r.2) := by
  rcases r with ⟨qs, _ | ⟨level, e⟩⟩ <;> simp [after, Draft.add]

theorem play_append (ms more : List Move) : play (ms ++ more) = match play ms with
    | (ps, none) => (ps ++ (play more).1, (play more).2)
    | stopped => stopped := by
  induction ms with
  | nil => rfl
  | cons m rest ih =>
    rw [List.cons_append, play, play, ih]
    cases m.pieces? with
    | error e => rfl
    | ok ps => rcases play rest with ⟨qs, _ | failed⟩ <;> simp

namespace Step

variable {s : Step} {d : Draft}

theorem after_whole (pieces : Nat → List Piece) (hs : script d.level s = [⟨d.level, .whole s⟩])
    (h : ∀ d : Draft, s.run d = (d.add (pieces d.level), none)) :
    s.run d = after d (play (script d.level s)) := by
  have hmove : Move.pieces? ⟨d.level, .whole s⟩ = .ok (pieces d.level) := by
    rw [Move.pieces?, h]
    rfl
  rw [hs, play, hmove, h]
  simp [play, after]

theorem after_whole_error {e : StepError} (hs : script d.level s = [⟨d.level, .whole s⟩])
    (h : ∀ d : Draft, s.run d = (d, some e)) : s.run d = after d (play (script d.level s)) := by
  have hmove : Move.pieces? ⟨d.level, .whole s⟩ = .error e := by rw [Move.pieces?, h]
  rw [hs, play, hmove, h]
  simp [after]

theorem after_decorator (kind : ClassKind) (c : Config) (d : Draft) :
    (decorator kind c).run d = after d (play (script d.level (.decorator kind c))) := by
  cases h : (Shape.ofClass kind).properties c with
  | error e =>
    have hs : script d.level (.decorator kind c) = [⟨d.level, .whole (.decorator kind c)⟩] := by
      rw [script, h]
    exact after_whole_error hs fun d => decorator_refuses h
  | ok ps =>
    rw [run, decoratorPieces, configPieces_eq h, script, h]
    simp [play, Move.pieces?, run, after, addIfAny, Except.map, decorated]

theorem after_block {name : String} {body : List Step} (failure : Option String)
    (h : ∀ d : Draft, runAll body d = after d (play (scriptAll d.level body))) :
    (block name body failure).run d = after d (play (script d.level (.block name body failure))) := by
  have hbody : runAll body (d.line ("@" ++ name ++ "(\x7b")).indent =
      after (d.line ("@" ++ name ++ "(\x7b")).indent (play (scriptAll (d.level + 1) body)) := h _
  rw [run, hbody, script, play, Move.pieces?]
  rcases hplay : play (scriptAll (d.level + 1) body) with ⟨ps, _ | ⟨level, e⟩⟩
  · rw [play_append, hplay]
    cases failure <;> simp [play, Move.pieces?, after, close, Draft.line, Draft.add, Draft.indent, Draft.dedent]
  · rw [play_append, hplay]
    simp [after, close, Draft.line]

mutual

-- by induction on the tree of steps, since the moves of a block are those of its body and two more
theorem run_eq_play (s : Step) (h : s.keepsLevel = true) (d : Draft) :
    s.run d = after d (play (script d.level s)) := by
  cases s with
  | block name body failure => exact after_block failure (runAll_eq_play body h)
  | decorator kind c => exact after_decorator kind c d
  | indent => cases h
  | dedent => cases h
  | config shape c =>
    cases hp : shape.properties c with
    | error e => exact after_whole_error rfl fun d => config_refuses hp
    | ok ps =>
      refine after_whole (propertyPieces · ps) rfl fun d => ?_
      rw [run, configPieces_eq hp]
      rfl
  | line text => exact after_whole (fun level => [Layout.line level text]) rfl fun _ => rfl
  | raw text => exact after_whole (fun _ => [Layout.raw text]) rfl fun _ => rfl
  | startLine => exact after_whole (fun level => [⟨level, ""⟩]) rfl fun _ => rfl
  | endLine => exact after_whole (fun _ => [blank]) rfl fun _ => rfl
  | fragments fs => exact after_whole (fun level => fs.map (Fragment.at level)) rfl fun _ => rfl
  | properties ps => exact after_whole (propertyPieces · ps) rfl fun _ => rfl
  | route r => exact after_whole (routePieces · r) rfl fun _ => rfl
  | routes rs => exact after_whole (routeTable · rs) rfl fun _ => rfl

theorem runAll_eq_play (steps : List Step) (h : keepLevel steps = true) (d : Draft) :
    runAll steps d = after d (play (scriptAll d.level steps)) := by
  cases steps with
  | nil => simp [runAll, scriptAll, play, after, Draft.add]
  | cons s rest =>
    rw [keepLevel, Bool.and_eq_true] at h
    rw [runAll, scriptAll, run_eq_play s h.1 d]
    rcases hplay : play (script d.level s) with ⟨ps, _ | ⟨level, e⟩⟩
    · rw [play_append, hplay]
      exact (runAll_eq_play rest h.2 (d.add ps)).trans (after_add d ps _)
    · rw [play_append, hplay]
      rfl

end

end Step

def Make (ms : List Move) (written : List (List Piece)) : Prop :=
  List.Forall₂ (fun m ps => m.pieces? = .ok ps) ms written

theorem play_cases (ms : List Move) : (∃ written, Make ms written ∧ play ms = (written.flatten, none)) ∨
    ∃ front m back written e, ms = front ++ m :: back ∧ Make front written ∧ m.pieces? = .error e ∧
      play ms = (written.flatten, some (m.level, e)) := by
  induction ms with
  | nil => exact .inl ⟨[], .nil, rfl⟩
  | cons m rest ih =>
    cases hm : m.pieces? with
    | error e => exact .inr ⟨[], m, rest, [], e, rfl, .nil, hm, by rw [play, hm]; rfl⟩
    | ok ps =>
      rcases ih with ⟨written, hwritten, hplay⟩ | ⟨front, m', back, written, e, rfl, hwritten, herror, hplay⟩
      · exact .inl ⟨ps :: written, .cons hm hwritten, by rw [play, hm, hplay]; rfl⟩
      · exact .inr ⟨m :: front, m', back, ps :: written, e, rfl, .cons hm hwritten, herror,
          by rw [play, hm, hplay]; rfl⟩

/-! ### Brackets -/

inductive Plain (level : Nat) : Move → Prop
  | whole {s : Step} (hs : s.script level = [⟨level, .whole s⟩]) : Plain level ⟨level, .whole s⟩
  | stop {message : String} : Plain level ⟨level, .stop message⟩

/-- Moves at a level, with each block in brackets that stand at the level of the block and its body one level deeper
between them. -/
inductive Bracketed : Nat → List Move → Prop
  | nil {level : Nat} : Bracketed level []
  | plain {level : Nat} {m : Move} {rest : List Move} (hm : Plain level m) (hrest : Bracketed level rest) :
      Bracketed level (m :: rest)
  | block {level : Nat} {name : String} {inner rest : List Move} (hinner : Bracketed (level + 1) inner)
      (hrest : Bracketed level rest) : Bracketed level (⟨level, .opening name⟩ :: (inner ++ ⟨level, .closing⟩ :: rest))

theorem Bracketed.append {level : Nat} {xs ys : List Move} (hx : Bracketed level xs) (hy : Bracketed level ys) :
    Bracketed level (xs ++ ys) := by
  induction hx with
  | nil => exact hy
  | plain hm _ ih => exact .plain hm (ih hy)
  | block hinner _ _ ih =>
    rw [List.cons_append, List.append_assoc, List.cons_append]
    exact .block hinner (ih hy)

namespace Step

mutual

theorem bracketed_script (s : Step) (level : Nat) : Bracketed level (s.script level) := by
  cases s with
  | block name body failure =>
    have hbody := bracketed_scriptAll body (level + 1)
    have hstop : Bracketed (level + 1) (failure.toList.map (⟨level + 1, .stop ·⟩)) := by
      cases failure with
      | none => exact .nil
      | some message => exact .plain .stop .nil
    rw [script, ← List.append_assoc]
    exact .block (hbody.append hstop) .nil
  | decorator kind c =>
    cases h : (Shape.ofClass kind).properties c with
    | error e =>
      have hs : script level (.decorator kind c) = [⟨level, .whole (.decorator kind c)⟩] := by rw [script, h]
      rw [hs]
      exact .plain (.whole hs) .nil
    | ok ps =>
      have hinner : Bracketed (level + 1) [⟨level + 1, .whole (.properties ps)⟩] := .plain (.whole rfl) .nil
      rw [script, h]
      exact .block hinner .nil
  | _ => exact .plain (.whole rfl) .nil

theorem bracketed_scriptAll (steps : List Step) (level : Nat) : Bracketed level (scriptAll level steps) := by
  cases steps with
  | nil => exact .nil
  | cons s rest => exact (bracketed_script s level).append (bracketed_scriptAll rest level)

end

end Step

def Act.leaves (names : List String) : Act → List String
  | .opening name => name :: names
  | .closing => names.tail
  | _ => names

def unclosed (names : List String) (ms : List Move) : List String :=
  ms.foldl (fun names m => m.act.leaves names) names

theorem unclosed_cons (names : List String) (m : Move) (rest : List Move) :
    unclosed names (m :: rest) = unclosed (m.act.leaves names) rest := rfl

theorem unclosed_append (names : List String) (xs ys : List Move) :
    unclosed names (xs ++ ys) = unclosed (unclosed names xs) ys :=
  List.foldl_append

theorem Plain.leaves_eq {level : Nat} {m : Move} (h : Plain level m) (names : List String) :
    m.act.leaves names = names := by
  cases h <;> rfl

theorem Plain.level_eq {level : Nat} {m : Move} (h : Plain level m) : m.level = level := by
  cases h <;> rfl

theorem Bracketed.unclosed_eq {level : Nat} (h : Bracketed level ms) (names : List String) :
    unclosed names ms = names := by
  induction h generalizing names with
  | nil => rfl
  | plain hm _ ih => rw [unclosed_cons, hm.leaves_eq, ih]
  | block _ _ hinner hrest => rw [unclosed_cons, unclosed_append, hinner, unclosed_cons, hrest, Act.leaves, Act.leaves,
      List.tail_cons]

theorem mem_block {m close : Move} {inner rest front back : List Move} (h : inner ++ close :: rest = front ++ m :: back)
    (hm : m ≠ close) : (∃ between, inner = front ++ m :: between) ∨
      ∃ between, front = inner ++ close :: between ∧ rest = between ++ m :: back := by
  -- the move stands in the block, or behind the line that closes it
  rcases List.append_eq_append_iff.mp h with ⟨between, hfront, hbehind⟩ | ⟨between, hinner, hbehind⟩
  · cases between with
    | nil => exact absurd (List.cons.inj hbehind).1.symm hm
    | cons first between =>
      obtain ⟨rfl, hrest⟩ := List.cons.inj hbehind
      exact .inr ⟨between, hfront, hrest⟩
  · cases between with
    | nil => exact absurd (List.cons.inj hbehind).1 hm
    | cons first between =>
      obtain ⟨rfl, -⟩ := List.cons.inj hbehind
      exact .inl ⟨between, hinner⟩

theorem Bracketed.level_eq {level : Nat} (h : Bracketed level ms) {front back : List Move} {m : Move}
    (hms : ms = front ++ m :: back) (hm : m.act ≠ .closing) (names : List String) :
    m.level + names.length = level + (unclosed names front).length := by
  induction h generalizing front back names with
  | nil => cases front <;> cases hms
  | plain hplain _ ih =>
    cases front with
    | nil =>
      obtain ⟨rfl, -⟩ := List.cons.inj hms
      rw [hplain.level_eq]
      rfl
    | cons first front =>
      obtain ⟨rfl, hrest⟩ := List.cons.inj hms
      rw [unclosed_cons, hplain.leaves_eq]
      exact ih hrest names
  | @block level name inner rest hinner _ ihinner ihrest =>
    cases front with
    | nil =>
      obtain ⟨rfl, -⟩ := List.cons.inj hms
      rfl
    | cons first front =>
      obtain ⟨rfl, hbody⟩ := List.cons.inj hms
      have hclose : m ≠ ⟨level, .closing⟩ := fun he => hm (congrArg Move.act he)
      rcases mem_block hbody hclose with ⟨between, hin⟩ | ⟨between, rfl, hbehind⟩
      · have hdeeper := ihinner hin (name :: names)
        rw [List.length_cons] at hdeeper
        rw [unclosed_cons, Act.leaves]
        omega
      · rw [unclosed_cons, unclosed_append, hinner.unclosed_eq, unclosed_cons, Act.leaves, Act.leaves, List.tail_cons]
        exact ihrest hbehind names

/-! ### Nested blocks -/

variable {steps : List Step}

structure Completed (i : Indent) (d : Draft) (ms : List Move) (d' : Draft) : Prop where
  level : d'.level = d.level
  text : ∃ written, Make ms written ∧ d'.text i = d.text i ++ render i written.flatten

structure HalfOpen (i : Indent) (d : Draft) (front : List Move) (m : Move) (e : StepError) (d' : Draft) : Prop where
  failed : m.pieces? = .error e
  level : d'.level = d.level + (unclosed [] front).length
  text : ∃ written, Make front written ∧ d'.text i = d.text i ++ render i written.flatten

/-- Steps that change the level in blocks only write their lines in brackets. If all of them succeed, the level is what
it was; if one fails, exactly what stands in front of it has been written, and every block around it is still open. -/
theorem nested_blocks (h : Step.keepLevel steps = true) (i : Indent) (d : Draft) :
    Bracketed d.level (Step.scriptAll d.level steps) ∧
      ((∃ d', Step.runAll steps d = (d', none) ∧ Completed i d (Step.scriptAll d.level steps) d') ∨
        ∃ front m back d' e, Step.scriptAll d.level steps = front ++ m :: back ∧
          Step.runAll steps d = (d', some e) ∧ HalfOpen i d front m e d') := by
  have hbracketed := Step.bracketed_scriptAll steps d.level
  refine ⟨hbracketed, ?_⟩
  rw [Step.runAll_eq_play steps h]
  rcases play_cases (Step.scriptAll d.level steps) with
    ⟨written, hwritten, hplay⟩ | ⟨front, m, back, written, e, hscript, hwritten, herror, hplay⟩
  · rw [hplay]
    exact .inl ⟨_, rfl, rfl, written, hwritten, Draft.text_add i d written.flatten⟩
  · -- a closing line cannot fail, so the move that does is counted at its level
    have hact : m.act ≠ .closing := by
      rcases m with ⟨level, act⟩
      rintro rfl
      cases herror
    have hlevel := hbracketed.level_eq hscript hact []
    rw [hplay]
    exact .inr ⟨front, m, back, _, e, hscript, rfl, herror, hlevel, written, hwritten,
      Draft.text_add i d written.flatten⟩

def stowed (c : Config) : List Step :=
  [.line "x", .block "Outer" [.endLine, .block "Inner" [.raw "b", .decorator .component c] none, .line "y"] none,
    .route ⟨"", "Home"⟩]

def unknownStrategy : Config :=
  ⟨[("changeDetection", .int 5)], by decide⟩

theorem stowed_blocks : Step.keepLevel (stowed .empty) = true ∧ Step.keepLevel (stowed unknownStrategy) = true ∧
    (∃ d', Step.runAll (stowed .empty) ⟨1, [raw "a"]⟩ = (d', none) ∧
      Completed .tab ⟨1, [raw "a"]⟩ (Step.scriptAll 1 (stowed .empty)) d') ∧
    ∃ front m back d' e, Step.scriptAll 1 (stowed unknownStrategy) = front ++ m :: back ∧
      Step.runAll (stowed unknownStrategy) ⟨1, [raw "a"]⟩ = (d', some e) ∧
      HalfOpen .tab ⟨1, [raw "a"]⟩ front m e d' ∧ d'.level = 3 ∧
      d'.text .tab = "a\tx\n\t@Outer(\x7b\n\n\t\t@Inner(\x7b\nb" := by
  have hempty : Step.keepLevel (stowed .empty) = true := by decide
  have hunknown : Step.keepLevel (stowed unknownStrategy) = true := by decide
  refine ⟨hempty, hunknown, ?_, ?_⟩
  · rcases (nested_blocks hempty .tab ⟨1, [raw "a"]⟩).2 with hdone | ⟨_, _, _, d', e, _, hrun, _⟩
    · exact hdone
    · have hnone : (Step.runAll (stowed .empty) ⟨1, [raw "a"]⟩).2 = none := by decide +kernel
      rw [hrun] at hnone
      cases hnone
  · rcases (nested_blocks hunknown .tab ⟨1, [raw "a"]⟩).2 with ⟨d', hrun, _⟩ | ⟨front, m, back, d', e, hs, hrun, hopen⟩
    · have hsome : (Step.runAll (stowed unknownStrategy) ⟨1, [raw "a"]⟩).2.isSome = true := by decide +kernel
      rw [hrun] at hsome
      cases hsome
    · have hleft : (Step.runAll (stowed unknownStrategy) ⟨1, [raw "a"]⟩).1.level = 3 ∧
          (Step.runAll (stowed unknownStrategy) ⟨1, [raw "a"]⟩).1.text .tab =
            "a\tx\n\t@Outer(\x7b\n\n\t\t@Inner(\x7b\nb" := by decide +kernel
      rw [hrun] at hleft
      exact ⟨front, m, back, d', e, hs, hrun, hopen, hleft⟩

end AngularScaffold.Angular
