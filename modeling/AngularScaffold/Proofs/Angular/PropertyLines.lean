import AngularScaffold.Angular.Step
import AngularScaffold.Proofs.Except
import AngularScaffold.Proofs.Layout.Rendered
import Mathlib.Data.List.Forall2

namespace AngularScaffold.Angular

open Layout

namespace Shape

theorem forall₂_of_writeEntries {s : Shape} {entries : List (String × Value)} {ps : List Property}
    (h : s.writeEntries entries = .ok ps) :
    List.Forall₂ (fun e p => p.key = e.1 ∧ s.write e.1 e.2 = .ok p.text) entries ps := by
  induction entries generalizing ps with
  | nil =>
    cases h
    exact .nil
  | cons e rest ih =>
    rw [writeEntries, bind_eq_ok] at h
    obtain ⟨text, htext, h⟩ := h
    rw [bind_eq_ok] at h
    obtain ⟨more, hmore, he⟩ := h
    cases he
    exact .cons ⟨rfl, htext⟩ (ih hmore)

end Shape

def listed (ps : List Property) : List String :=
  ps.mapIdx fun n p => p.key ++ ": " ++ p.text ++ if n + 1 < ps.length then "," else ""

theorem propertyLines_eq_listed (ps : List Property) : propertyLines ps = listed ps := by
  fun_induction propertyLines ps with
  | case1 => rfl
  | case2 p => simp [listed]
  | case3 p rest hrest ih =>
    have hpos : 0 < rest.length := List.length_pos_of_ne_nil hrest
    rw [ih, listed, listed, List.mapIdx_cons]
    simp [hpos]

theorem render_propertyPieces (i : Indent) (level : Nat) (ps : List Property) :
    render i (propertyPieces level ps) = linesAt i level (listed ps) := by
  rw [propertyPieces, render_lines, propertyLines_eq_listed]

theorem render_decorated (i : Indent) (level : Nat) (name : String) (inner : List Piece) :
    render i (decorated name level inner) =
      linesAt i level ["@" ++ name ++ "(\x7b"] ++ render i inner ++ linesAt i level ["\x7d)"] := by
  have hopen := render_lines i level ["@" ++ name ++ "(\x7b"]
  have hclose := render_lines i level ["\x7d)"]
  rw [← hopen, ← hclose, ← render_append, ← render_append, List.append_assoc]
  rfl

theorem configPieces_eq {s : Shape} {config : Config} {level : Nat} {ps : List Property}
    (h : s.properties config = .ok ps) : configPieces s config level = .ok (propertyPieces level ps) := by
  rw [configPieces, h]
  rfl

theorem configPieces_error {s : Shape} {config : Config} {level : Nat} {e : PropertyError}
    (h : s.properties config = .error e) : configPieces s config level = .error e := by
  rw [configPieces, h]
  rfl

namespace Step

def Refuses (d : Draft) (s : Step) (e : PropertyError) : Prop :=
  s.run d = (d, some (.property e))

/-- Steps that add a text and end at the level where they began. -/
def Appends (i : Indent) (d : Draft) (steps : List Step) (text : String) : Prop :=
  ∃ d', runAll steps d = (d', none) ∧ d'.level = d.level ∧ d'.text i = d.text i ++ text

variable {i : Indent} {d : Draft}

theorem runAll_singleton (s : Step) (d : Draft) : runAll [s] d = s.run d := by
  rw [runAll]
  split
  · rename_i h
    exact h.symm
  · rename_i h
    rw [runAll, h]

theorem runAll_append {xs : List Step} {d' : Draft} (h : runAll xs d = (d', none)) (ys : List Step) :
    runAll (xs ++ ys) d = runAll ys d' := by
  induction xs generalizing d with
  | nil =>
    obtain ⟨rfl, -⟩ := Prod.mk.inj h
    rfl
  | cons x xs ih =>
    rw [List.cons_append, runAll]
    rw [runAll] at h
    split at h
    · cases h
    · exact ih h

theorem appends_iff {steps : List Step} {text : String} : Appends i d steps text ↔ (runAll steps d).2 = none ∧
    (runAll steps d).1.level = d.level ∧ (runAll steps d).1.text i = d.text i ++ text := by
  constructor
  · rintro ⟨d', hrun, hlevel, htext⟩
    rw [hrun]
    exact ⟨rfl, hlevel, htext⟩
  · rintro ⟨hdone, hlevel, htext⟩
    exact ⟨_, Prod.ext rfl hdone, hlevel, htext⟩

instance (i : Indent) (d : Draft) (steps : List Step) (text : String) : Decidable (Appends i d steps text) :=
  decidable_of_iff _ appends_iff.symm

theorem Appends.unique {steps : List Step} {t u : String} (ht : Appends i d steps t) (hu : Appends i d steps u) :
    t = u := by
  obtain ⟨-, -, ht⟩ := appends_iff.mp ht
  obtain ⟨-, -, hu⟩ := appends_iff.mp hu
  exact (String.append_right_inj (d.text i)).mp (ht.symm.trans hu)

theorem appends_nil : Appends i d [] "" :=
  ⟨d, rfl, rfl, String.append_empty.symm⟩

theorem appends_of_run {s : Step} {ps : List Piece} (h : s.run d = (d.add ps, none)) :
    Appends i d [s] (render i ps) :=
  ⟨d.add ps, (runAll_singleton s d).trans h, rfl, Draft.text_add i d ps⟩

theorem Appends.append {xs ys : List Step} {t u : String} (hx : Appends i d xs t)
    (hy : ∀ d' : Draft, d'.level = d.level → Appends i d' ys u) : Appends i d (xs ++ ys) (t ++ u) := by
  obtain ⟨d', hrun, hlevel, htext⟩ := hx
  obtain ⟨d'', hrun', hlevel', htext'⟩ := hy d' hlevel
  refine ⟨d'', (runAll_append hrun ys).trans hrun', hlevel'.trans hlevel, ?_⟩
  rw [htext', htext, String.append_assoc]

theorem appends_block {name t : String} {body : List Step}
    (h : ∀ d' : Draft, d'.level = d.level + 1 → Appends i d' body t) :
    Appends i d [.block name body none]
      (linesAt i d.level ["@" ++ name ++ "(\x7b"] ++ t ++ linesAt i d.level ["\x7d)"]) := by
  obtain ⟨d', hrun, hlevel, htext⟩ := h (d.line ("@" ++ name ++ "(\x7b")).indent rfl
  refine ⟨d'.dedent.line "\x7d)", ?_, ?_, ?_⟩
  · rw [runAll_singleton, run, hrun]
    rfl
  · rw [Draft.level_line, Draft.level_dedent, hlevel]
    rfl
  · have hback : d'.dedent.level = d.level := by
      rw [Draft.level_dedent, hlevel]
      rfl
    rw [Draft.text_line, Draft.text_dedent, htext, Draft.text_indent, Draft.text_line, hback]
    simp only [linesAt_cons, linesAt_nil, String.append_empty, String.append_assoc]

def bit (p : Property) (behind : List Step) : List Step :=
  [.startLine, .raw p.key, .raw ": ", .raw p.text] ++ behind ++ [.endLine]

def bits : List Property → List Step
  | [] => []
  | [p] => bit p []
  | p :: rest => bit p [.raw ","] ++ bits rest

theorem appends_raw (text : String) (d : Draft) : Appends i d [.raw text] text := by
  have h : Appends i d [.raw text] (render i [Layout.raw text]) := appends_of_run rfl
  rwa [render_raw] at h

theorem appends_bit {p : Property} {behind : List Step} {t : String} (h : ∀ d' : Draft, Appends i d' behind t) :
    Appends i d (bit p behind) (linesAt i d.level [p.key ++ ": " ++ p.text ++ t]) := by
  have hstart : Appends i d [.startLine] (render i [⟨d.level, ""⟩]) := appends_of_run rfl
  have hend : ∀ d' : Draft, Appends i d' [.endLine] (render i [blank]) := fun d' => appends_of_run rfl
  have hkey := hstart.append fun d' _ => appends_raw p.key d'
  have hcolon := hkey.append fun d' _ => appends_raw ": " d'
  have htext := hcolon.append fun d' _ => appends_raw p.text d'
  have hbehind := (htext.append fun d' _ => h d').append fun d' _ => hend d'
  have hindent : render i [⟨d.level, ""⟩] = i.levels d.level := by
    simp [render, Piece.render]
  have hsteps : bit p behind =
      [.startLine] ++ [.raw p.key] ++ [.raw ": "] ++ [.raw p.text] ++ behind ++ [.endLine] := rfl
  rw [hindent, render_blank] at hbehind
  rw [hsteps]
  simpa only [linesAt_cons, linesAt_nil, String.append_assoc, String.append_empty] using hbehind

theorem appends_bits (ps : List Property) (d : Draft) : Appends i d (bits ps) (linesAt i d.level (listed ps)) := by
  rw [← propertyLines_eq_listed]
  -- each property leaves the level as it was, which is what the rest is written at
  fun_induction propertyLines ps generalizing d with
  | case1 => exact appends_nil
  | case2 p =>
    have h : Appends i d (bit p []) (linesAt i d.level [p.key ++ ": " ++ p.text ++ ""]) :=
      appends_bit fun _ => appends_nil
    rwa [String.append_empty] at h
  | case3 p rest hrest ih =>
    have h : Appends i d (bit p [.raw ","]) (linesAt i d.level [p.key ++ ": " ++ p.text ++ ","]) :=
      appends_bit (appends_raw ",")
    have hsteps : bits (p :: rest) = bit p [.raw ","] ++ bits rest := by
      obtain ⟨q, more, rfl⟩ := List.exists_cons_of_ne_nil hrest
      rfl
    have hmore : ∀ d' : Draft, d'.level = d.level →
        Appends i d' (bits rest) (linesAt i d.level (propertyLines rest)) := fun d' hlevel => hlevel ▸ ih d'
    have hlines := linesAt_append i d.level [p.key ++ ": " ++ p.text ++ ","] (propertyLines rest)
    rw [List.singleton_append] at hlines
    rw [hsteps, hlines]
    exact h.append hmore

end Step

section Emission

open Step

variable {i : Indent} {d : Draft} {s : Shape} {config : Config} {kind : ClassKind}

theorem config_refuses {e : PropertyError} (h : s.properties config = .error e) : Refuses d (.config s config) e := by
  rw [Refuses, run, configPieces_error h]
  rfl

theorem decorator_refuses {e : PropertyError} (h : (Shape.ofClass kind).properties config = .error e) :
    Refuses d (.decorator kind config) e := by
  rw [Refuses, run, decoratorPieces, configPieces_error h]
  rfl

theorem config_appends {ps : List Property} (h : s.properties config = .ok ps) :
    Appends i d [.config s config] (linesAt i d.level (listed ps)) := by
  rw [← render_propertyPieces]
  apply appends_of_run
  rw [run, configPieces_eq h]
  rfl

theorem decorator_appends {ps : List Property} (h : (Shape.ofClass kind).properties config = .ok ps) :
    Appends i d [.decorator kind config] (linesAt i d.level ["@" ++ kind.decorator ++ "(\x7b"] ++
      linesAt i (d.level + 1) (listed ps) ++ linesAt i d.level ["\x7d)"]) := by
  rw [← render_propertyPieces, ← render_decorated]
  apply appends_of_run
  rw [run, decoratorPieces, configPieces_eq h]
  rfl

/-- Writing a configuration or its decorator either fails and changes nothing, or adds a line for each entry at
the level of the draft and keeps the level. A decorator adds what its block would if the properties were written
bit by bit, which no failure can interrupt any more. -/
theorem emission (i : Indent) (d : Draft) (s : Shape) (config : Config) :
    (∃ e, s.properties config = .error e ∧ Refuses d (.config s config) e ∧
      ∀ kind, s = .ofClass kind → Refuses d (.decorator kind config) e) ∨
    ∃ ps, s.properties config = .ok ps ∧
      List.Forall₂ (fun e p => p.key = e.1 ∧ s.write e.1 e.2 = .ok p.text) config.entries ps ∧
      Appends i d [.config s config] (linesAt i d.level (listed ps)) ∧
      Appends i d (bits ps) (linesAt i d.level (listed ps)) ∧
      ∀ kind, s = .ofClass kind → ∃ text,
        text = linesAt i d.level ["@" ++ kind.decorator ++ "(\x7b"] ++ linesAt i (d.level + 1) (listed ps) ++
          linesAt i d.level ["\x7d)"] ∧
        Appends i d [.decorator kind config] text ∧ Appends i d [.block kind.decorator (bits ps) none] text := by
  cases h : s.properties config with
  | error e =>
    refine .inl ⟨e, rfl, config_refuses h, ?_⟩
    rintro kind rfl
    exact decorator_refuses h
  | ok ps =>
    refine .inr ⟨ps, rfl, Shape.forall₂_of_writeEntries h, config_appends h, appends_bits ps d, ?_⟩
    rintro kind rfl
    refine ⟨_, rfl, decorator_appends h, appends_block fun d' hlevel => ?_⟩
    exact hlevel ▸ appends_bits ps d'

def card : Config :=
  ⟨[("selector", .text "app-card"), ("changeDetection", .int 0), ("providers", .list [.text "Home"])], by decide⟩

def cardProperties : List Property :=
  [⟨"selector", "'app-card'"⟩, ⟨"changeDetection", "ChangeDetectionStrategy.OnPush"⟩, ⟨"providers", "[Home]"⟩]

def unruly : Config :=
  ⟨[("selector", .text "app-card"), ("changeDetection", .int 5)], by decide⟩

theorem card_emission :
    Appends (.spaces 4) ⟨1, [raw "a"]⟩ [.config (.ofClass .component) card]
      ("    selector: 'app-card',\n" ++ "    changeDetection: ChangeDetectionStrategy.OnPush,\n" ++
        "    providers: [Home]\n") ∧
    Appends (.spaces 2) ⟨1, [raw "a"]⟩ [.decorator .component card]
      ("  @Component(\x7b\n" ++ "    selector: 'app-card',\n" ++
        "    changeDetection: ChangeDetectionStrategy.OnPush,\n" ++ "    providers: [Home]\n" ++ "  \x7d)\n") ∧
    Appends (.spaces 8) ⟨0, []⟩ [.decorator .component card]
      ("@Component(\x7b\n" ++ "        selector: 'app-card',\n" ++
        "        changeDetection: ChangeDetectionStrategy.OnPush,\n" ++ "        providers: [Home]\n" ++ "\x7d)\n") ∧
    ∃ e, Refuses ⟨1, [raw "a"]⟩ (.decorator .component unruly) e := by
  have hcard : (Shape.ofClass .component).properties card = .ok cardProperties := by decide +kernel
  have hwritten (i : Indent) (d : Draft) : Appends i d [.config (.ofClass .component) card]
        (linesAt i d.level (listed cardProperties)) ∧
      Appends i d [.decorator .component card] (linesAt i d.level ["@Component(\x7b"] ++
        linesAt i (d.level + 1) (listed cardProperties) ++ linesAt i d.level ["\x7d)"]) := by
    rcases emission i d (.ofClass .component) card with ⟨e, he, -⟩ | ⟨ps, hps, -, hconfig, -, hdecorator⟩
    · rw [hcard] at he
      cases he
    · rw [hcard] at hps
      cases hps
      obtain ⟨_, rfl, hwhole, -⟩ := hdecorator .component rfl
      exact ⟨hconfig, hwhole⟩
  refine ⟨?four, ?two, ?eight, ?refused⟩
  case four =>
    convert (hwritten (.spaces 4) ⟨1, [raw "a"]⟩).1 using 1
    decide +kernel
  case two =>
    convert (hwritten (.spaces 2) ⟨1, [raw "a"]⟩).2 using 1
    decide +kernel
  case eight =>
    convert (hwritten (.spaces 8) ⟨0, []⟩).2 using 1
    decide +kernel
  case refused =>
    have hunruly : ((Shape.ofClass .component).properties unruly).isOk = false := by decide +kernel
    rcases emission default ⟨1, [raw "a"]⟩ (.ofClass .component) unruly with ⟨e, -, -, hrefuses⟩ | ⟨ps, hps, -⟩
    · exact ⟨e, hrefuses .component rfl⟩
    · rw [hps] at hunruly
      cases hunruly

end Emission

end AngularScaffold.Angular
