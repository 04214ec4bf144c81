import AngularScaffold.Proofs.Angular.PropertyLines
import AngularScaffold.Proofs.Angular.Subjects
import AngularScaffold.Proofs.TypeScript.PlainText

namespace AngularScaffold.Angular

open Layout Naming TypeScript

def readPropertyName? (cs : List Char) : Option (String × List Char) :=
  if cs.head? = some '\'' then readText? cs else readName? cs

def readProperty? (line : String) : Option Property :=
  (readPropertyName? line.toList).bind fun name =>
    (expect? ": " name.2).map fun value => ⟨name.1, String.ofList value⟩

def withoutComma? (line : String) : Option String :=
  if line.toList.getLast? = some ',' then some (String.ofList line.toList.dropLast) else none

def readProperties? : List String → Option (List Property)
  | [] => some []
  | [l] => (readProperty? l).map ([·])
  | l :: rest => (withoutComma? l).bind fun l => (readProperty? l).bind fun p => (readProperties? rest).map (p :: ·)

theorem length_of_readText? {cs rest : List Char} {text : String} (h : readText? cs = some (text, rest)) :
    text.toList.length + rest.length + 1 < cs.length := by
  obtain ⟨p, hp, he⟩ := Option.map_eq_some_iff.mp h
  obtain ⟨rfl, rfl⟩ := Prod.mk.inj he
  rw [String.toList_ofList]
  cases cs with
  | nil => cases hp
  | cons c cs =>
    rw [readLiteral?] at hp
    split at hp
    · have := length_of_readBody? hp
      simp only [List.length_cons]
      omega
    · cases hp

theorem head?_of_nameFault? {name : String} (h : nameFault? name = none) (rest : List Char) :
    (name.toList ++ rest).head? ≠ some '\'' := by
  obtain ⟨c, cs, hname, hc, -⟩ := nameFault?_eq_none.mp h
  rw [hname, List.cons_append, List.head?_cons]
  intro he
  cases he
  exact absurd hc (by decide)

theorem readProperty?_eq_some {p : Property} :
    readProperty? (p.key ++ ": " ++ p.text) = some p ↔ nameFault? p.key = none := by
  have hline : (p.key ++ ": " ++ p.text).toList = p.key.toList ++ (": ".toList ++ p.text.toList) := by
    simp only [String.toList_append, List.append_assoc]
  rw [readProperty?, hline]
  constructor
  · intro h
    obtain ⟨⟨name, after⟩, hname, h⟩ := Option.bind_eq_some_iff.mp h
    obtain ⟨value, hvalue, rfl⟩ := Option.map_eq_some_iff.mp h
    unfold readPropertyName? at hname
    split at hname
    · -- a literal stands for a text that is shorter than itself
      have hshort := length_of_readText? hname
      have hafter := congrArg List.length (eq_of_expect? hvalue)
      simp only [String.toList_ofList, List.length_append] at hshort hafter
      omega
    · exact (readName?_eq_some.mp hname).1
  · intro h
    have hends : EndsName (": ".toList ++ p.text.toList) := endsName_cons (' ' :: p.text.toList) (by decide)
    have hname := readName?_eq_some.mpr ⟨h, rfl, hends⟩
    rw [readPropertyName?, if_neg (head?_of_nameFault? h _), hname, Option.bind_some, expect?_append,
      Option.map_some, String.ofList_toList]

theorem withoutComma?_append (l : String) : withoutComma? (l ++ ",") = some l := by
  have hlast : (l ++ ",").toList = l.toList ++ [','] := by simp
  rw [withoutComma?, hlast, List.getLast?_concat, if_pos rfl, List.dropLast_concat, String.ofList_toList]

theorem readProperties?_eq_some {ps : List Property} :
    readProperties? (listed ps) = some ps ↔ ∀ p ∈ ps, nameFault? p.key = none := by
  rw [← propertyLines_eq_listed]
  fun_induction propertyLines ps with
  | case1 => simp [readProperties?]
  | case2 p => simp [readProperties?, ← readProperty?_eq_some]
  | case3 p rest hrest ih =>
    obtain ⟨l, ls, hlines⟩ : ∃ l ls, propertyLines rest = l :: ls := by
      apply List.exists_cons_of_ne_nil
      rw [← List.length_pos_iff_ne_nil, length_propertyLines]
      exact List.length_pos_of_ne_nil hrest
    rw [hlines] at ih ⊢
    change (withoutComma? (p.key ++ ": " ++ p.text ++ ",")).bind _ = _ ↔ _
    rw [withoutComma?_append, Option.bind_some, List.forall_mem_cons, ← ih, ← readProperty?_eq_some]
    simp only [Option.bind_eq_some_iff, Option.map_eq_some_iff, List.cons.injEq]
    constructor
    · rintro ⟨q, hq, qs, hqs, rfl, rfl⟩
      exact ⟨hq, hqs⟩
    · rintro ⟨hp, hps⟩
      exact ⟨p, hp, rest, hps, rfl, rfl⟩

structure ObjectFrame where
  shape : Shape
  config : Config
  opening : String
  closing : String
  behind : String

namespace Subject

def object? : Subject → Option ObjectFrame
  | ofClass d => some
      { shape := .ofClass d.kind
        config := d.config
        opening := "@" ++ d.kind.decorator ++ "(\x7b"
        closing := "\x7d)"
        behind := "export class " ++ d.name ++ " \x7b\x7d\n" }
  | routes => none
  | application config => some
      { shape := .application
        config := config
        opening := "export const appConfig: ApplicationConfig = \x7b"
        closing := "\x7d;"
        behind := "" }

variable {m : Manifest} {s : Subject} {f : SourceFile} {o : ObjectFrame}

theorem render_body (h : s.file m = .ok f) (ho : s.object? = some o) (i : Indent) :
    ∃ ps, o.shape.properties o.config = .ok ps ∧
      render i f.body = o.opening ++ "\n" ++ linesAt i 1 (listed ps) ++ o.closing ++ "\n" ++ o.behind := by
  cases s with
  | ofClass d =>
    cases ho
    obtain ⟨decorator, hdecorator, he⟩ := bind_eq_ok.mp h
    obtain rfl := Except.ok.inj he
    obtain ⟨inner, hinner, rfl⟩ := map_eq_ok.mp hdecorator
    obtain ⟨ps, hps, rfl⟩ := map_eq_ok.mp hinner
    refine ⟨ps, hps, ?_⟩
    rw [render_append, render_decorated, render_propertyPieces, render_line, linesAt_zero, linesAt_zero]
    simp only [classLine, String.append_assoc]
    rfl
  | routes => cases ho
  | application config =>
    cases ho
    obtain ⟨properties, hproperties, he⟩ := bind_eq_ok.mp h
    obtain rfl := Except.ok.inj he
    obtain ⟨ps, hps, rfl⟩ := map_eq_ok.mp hproperties
    refine ⟨ps, hps, ?_⟩
    rw [render_cons, render_append, render_propertyPieces, render_line, render_line_zero]
    simp only [String.append_assoc, String.append_empty]

end Subject

/-- The object in a file has a line for each entry of its configuration, in order and with commas between them.
Each line reads as the property that it was made of exactly if the key is an identifier, and so does the object
if all keys are. -/
theorem preview_objects {m : Manifest} {i : Indent} {files : List GeneratedFile} (hp : preview i m = .ok files) :
    ∀ s ∈ subjects m, ∀ o, s.object? = some o → ∃ f ∈ files, f.path = s.path ∧ ∃ ps,
      List.Forall₂ (fun e p => p.key = e.1 ∧ o.shape.write e.1 e.2 = .ok p.text) o.config.entries ps ∧
      f.content = importBlock (s.imports m) ++ "\n" ++
        (o.opening ++ "\n" ++ linesAt i 1 (listed ps) ++ o.closing ++ "\n" ++ o.behind) ∧
      (∀ p ∈ ps, readProperty? (p.key ++ ": " ++ p.text) = some p ↔ nameFault? p.key = none) ∧
      (readProperties? (listed ps) = some ps ↔ ∀ key ∈ o.config.keys, nameFault? key = none) := by
  intro s hs o ho
  obtain ⟨g, hg, hmem⟩ := exists_mem_preview hp hs
  obtain ⟨ps, hps, hbody⟩ := Subject.render_body hg ho i
  have hkeys : ps.map Property.key = o.config.keys := Shape.keys_of_writeEntries hps
  refine ⟨_, hmem, Subject.path_file hg, ps, Shape.forall₂_of_writeEntries hps, ?_, ?_, ?_⟩
  · rw [content_file hg, hbody]
  · exact fun p _ => readProperty?_eq_some
  · rw [readProperties?_eq_some, ← hkeys, List.forall_mem_map]

def dashed : String :=
  "[project]
name = \"x\"
[components.App]
selector = \"app\"
aria-label = \"x\"
"

def dashedFile : GeneratedFile where
  path := "app.component.ts"
  content := "import \x7b Component \x7d from '@angular/core';

@Component(\x7b
  selector: 'app',
  aria-label: 'x'
\x7d)
export class App \x7b\x7d
"

theorem dashed_subject : ∃ m, Manifest.read "ngwrite.toml" dashed = .ok m ∧
    (∀ i, ∃ files, preview i m = .ok files) ∧ ∃ s ∈ subjects m, s.path = "app.component.ts" ∧
      (∃ o, s.object? = some o ∧ o.config.keys = ["selector", "aria-label"]) ∧
      ∃ g, s.file m = .ok g ∧ g.generate (.spaces 2) = dashedFile := by
  have h : ∃ m, Manifest.read "ngwrite.toml" dashed = .ok m ∧ (classFiles m m.classes).isOk ∧
      (configFiles m).isOk ∧ ∃ s ∈ subjects m, s.path = "app.component.ts" ∧
        s.object?.map (·.config.keys) = some ["selector", "aria-label"] ∧
        ∃ g, s.file m = .ok g ∧ g.generate (.spaces 2) = dashedFile := by
    decide +kernel
  obtain ⟨m, hr, hc, hg, s, hs, hpath, hkeys, hfile⟩ := h
  exact ⟨m, hr, preview_isOk hc hg, s, hs, hpath, Option.map_eq_some_iff.mp hkeys, hfile⟩

theorem dashed_objects : ∃ m files, preview .tab m = .ok files ∧ ∃ s ∈ subjects m, ∃ o, s.object? = some o ∧
    ∃ f ∈ files, f.path = "app.component.ts" ∧ ∃ ps, ps.map Property.key = ["selector", "aria-label"] ∧
      (∀ p ∈ ps, readProperty? (p.key ++ ": " ++ p.text) = some p ↔ p.key = "selector") ∧
      readProperties? (listed ps) ≠ some ps := by
  obtain ⟨m, -, hp, s, hs, hpath, ⟨o, ho, hkeys⟩, -⟩ := dashed_subject
  obtain ⟨files, hfiles⟩ := hp .tab
  obtain ⟨f, hf, hfpath, ps, hps, -, hproperty, hobject⟩ := preview_objects hfiles s hs o ho
  have hpkeys : ps.map Property.key = ["selector", "aria-label"] := by
    have hsame : o.config.entries.map Prod.fst = ps.map Property.key := by
      rw [← List.forall₂_eq_eq_eq, List.forall₂_map_left_iff, List.forall₂_map_right_iff]
      exact hps.imp fun e p h => h.1.symm
    exact hsame.symm.trans hkeys
  have hselector : nameFault? "selector" = none := by decide +kernel
  have hlabel : nameFault? "aria-label" ≠ none := by decide +kernel
  refine ⟨m, files, hfiles, s, hs, o, ho, f, hf, hfpath.trans hpath, ps, hpkeys, fun p hmem => ?_, ?_⟩
  · have hkey : p.key = "selector" ∨ p.key = "aria-label" := by
      simpa [hpkeys] using List.mem_map_of_mem (f := Property.key) hmem
    rw [hproperty p hmem]
    rcases hkey with hkey | hkey
    · simp [hkey, hselector]
    · simp [hkey, hlabel]
  · intro hread
    exact hlabel (hobject.mp hread _ (hkeys ▸ .tail _ (.head _)))

/-- The name of a property ends at a dash, and no colon follows it. -/
theorem dash_ends_key : ∃ m files, Manifest.read "ngwrite.toml" dashed = .ok m ∧
    preview (.spaces 2) m = .ok files ∧ dashedFile ∈ files ∧
    (∃ s ∈ subjects m, s.path = dashedFile.path ∧
      ∃ o, s.object? = some o ∧ o.config.keys = ["selector", "aria-label"]) ∧
    readPropertyName? "aria-label: 'x'".toList = some ("aria", "-label: 'x'".toList) ∧
    readProperties? ["selector: 'app',", "aria-label: 'x'"] = none := by
  obtain ⟨m, hr, hp, s, hs, hpath, hobject, g, hg, hfile⟩ := dashed_subject
  obtain ⟨files, hfiles⟩ := hp (.spaces 2)
  have hmem : dashedFile ∈ files := hfile ▸ (mem_preview hfiles).mpr ⟨s, hs, g, hg, rfl⟩
  refine ⟨m, files, hr, hfiles, hmem, ⟨s, hs, hpath, hobject⟩, ?_, ?_⟩
  · decide +kernel
  · decide +kernel

end AngularScaffold.Angular
