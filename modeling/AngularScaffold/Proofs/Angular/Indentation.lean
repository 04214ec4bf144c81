import AngularScaffold.Proofs.Angular.Imports
import AngularScaffold.Proofs.Angular.PropertyLines
import AngularScaffold.Proofs.Layout.Page

/-!
Files that are typed with their indentation from the first stroke on: the body on a page of its own, and then as it
stands behind the imports. Main statement: the typed files are the generated ones, and what they consist of, what is
wrong with them and what is warned about are the same for every indentation.
-/

namespace AngularScaffold.Angular

open Layout TypeScript

namespace Typed

def property (p : Property) (behind : List String) : List Stroke :=
  .margin :: ([p.key, ": ", p.text] ++ behind ++ ["\n"]).map .text

def properties : List Property → List Stroke
  | [] => []
  | [p] => property p []
  | p :: rest => property p [","] ++ properties rest

def block (name : String) (body : List Stroke) : List Stroke :=
  Stroke.line ("@" ++ name ++ "(\x7b") ++ Stroke.inside body ++ Stroke.line "\x7d)"

def route (r : Route) : List Stroke :=
  Stroke.line "\x7b" ++
    Stroke.inside (Stroke.line ("path: " ++ quote r.path ++ ",") ++ Stroke.line ("component: " ++ r.component)) ++
    Stroke.line "\x7d,"

def routes (rs : List Route) : List Stroke :=
  Stroke.line "export const routes: Routes = [" ++ Stroke.inside (rs.flatMap route) ++ Stroke.line "];"

def application (ps : List Property) : List Stroke :=
  Stroke.line "export const appConfig: ApplicationConfig = \x7b" ++ Stroke.inside (properties ps) ++
    Stroke.line "\x7d;"

theorem sets_property (p : Property) {behind : List String} {mark : String} (h : String.join behind = mark) :
    Sets (property p behind) fun level => [line level (p.key ++ ": " ++ p.text ++ mark)] := by
  apply sets_texts
  rw [String.join_append, h]
  simp [String.append_assoc]

theorem sets_properties (ps : List Property) : Sets (properties ps) fun level => propertyPieces level ps := by
  unfold propertyPieces
  fun_induction propertyLines ps with
  | case1 => exact sets_nil
  | case2 p =>
    have h : Sets (property p []) fun level => [line level (p.key ++ ": " ++ p.text ++ "")] := sets_property p rfl
    rwa [String.append_empty] at h
  | case3 p rest hrest ih =>
    have h : Sets (property p [","]) fun level => [line level (p.key ++ ": " ++ p.text ++ ",")] :=
      sets_property p (by simp)
    -- only in front of another property does the comma stand in the strokes, too
    obtain ⟨q, more, rfl⟩ := List.exists_cons_of_ne_nil hrest
    exact h.append ih

theorem sets_block (name : String) {body : List Stroke} {pieces : Nat → List Piece} (h : Sets body pieces) :
    Sets (block name body) fun level => decorated name level (pieces (level + 1)) := by
  have hopen := Stroke.sets_line ("@" ++ name ++ "(\x7b")
  exact (hopen.append (Stroke.sets_inside h)).append (Stroke.sets_line "\x7d)")

theorem sets_route (r : Route) : Sets (route r) fun level => routePieces level r := by
  have hpath := Stroke.sets_line ("path: " ++ quote r.path ++ ",")
  have hinner := Stroke.sets_inside (hpath.append (Stroke.sets_line ("component: " ++ r.component)))
  exact ((Stroke.sets_line "\x7b").append hinner).append (Stroke.sets_line "\x7d,")

theorem sets_routes (rs : List Route) : Sets (routes rs) fun level => routeTable level rs := by
  have hrows := Stroke.sets_inside (sets_flatMap sets_route rs)
  exact ((Stroke.sets_line "export const routes: Routes = [").append hrows).append (Stroke.sets_line "];")

theorem sets_application (ps : List Property) : Sets (application ps) fun level =>
    line level "export const appConfig: ApplicationConfig = \x7b" ::
      (propertyPieces (level + 1) ps ++ [line level "\x7d;"]) := by
  have hopen := Stroke.sets_line "export const appConfig: ApplicationConfig = \x7b"
  exact (hopen.append (Stroke.sets_inside (sets_properties ps))).append (Stroke.sets_line "\x7d;")

theorem sets_imports (imports : List Import) : Sets (imports.flatMap fun m => Stroke.line m.line)
    fun level => imports.map fun m => line level m.line := by
  have h := sets_flatMap (fun m : Import => Stroke.sets_line m.line) imports
  simpa only [← List.map_eq_flatMap] using h

end Typed

namespace Subject

def title : Subject → String
  | ofClass d => d.kind.name
  | routes => "routes"
  | application _ => "application config"

def warnings (m : Manifest) (s : Subject) : List Warning :=
  (s.expressions m).flatMap (warningsFor m s.binding)

def strokes (m : Manifest) : Subject → Except PropertyError (List Stroke)
  | ofClass d => ((Shape.ofClass d.kind).properties d.config).map fun ps =>
    Typed.block d.kind.decorator (Typed.properties ps) ++ Stroke.line (classLine d.name)
  | routes => .ok (Typed.routes m.routes)
  | application config => (Shape.application.properties config).map Typed.application

def assembled (m : Manifest) (s : Subject) (body : String) : List Stroke :=
  (s.imports m).flatMap (fun i => Stroke.line i.line) ++ (if (s.imports m).isEmpty then [] else [.text "\n"]) ++
    [.text body]

def typed (i : Indent) (m : Manifest) (s : Subject) : Except PropertyError GeneratedFile :=
  (s.strokes m).map fun body => ⟨s.path, (Page.type i {} (s.assembled m (Page.type i {} body).text)).text⟩

variable {m : Manifest} {s : Subject} {f : SourceFile} {ks : List Stroke} {pieces : Nat → List Piece}

theorem sets_assembled (m : Manifest) (s : Subject) (body : String) : Sets (s.assembled m body)
    fun level => (s.imports m).map (fun i => line level i.line) ++ [blank] ++ [raw body] := by
  have hne : (s.imports m).isEmpty = false := by simpa using s.imports_ne_nil m
  rw [assembled, hne]
  exact ((Typed.sets_imports (s.imports m)).append (sets_raw "\n")).append (sets_raw body)

theorem typed_of_sets (hk : s.strokes m = .ok ks) (hf : s.file m = .ok f) (h : Sets ks pieces)
    (hbody : f.body = pieces 0) (i : Indent) : s.typed i m = (s.file m).map (·.generate i) := by
  have htext : (Page.type i {} (s.assembled m (Page.type i {} ks).text)).text =
      importBlock (s.imports m) ++ "\n" ++ render i f.body := by
    rw [(sets_assembled m s _).typed, h.typed, hbody, render_append, render_append, render_imports, render_blank,
      render_raw]
  rw [typed, hk, hf, Except.map, Except.map, generate_eq hf, htext]

theorem typed_of_properties {properties : Except PropertyError (List Property)}
    {typing : List Property → List Stroke} {pieces : List Property → Nat → List Piece}
    (hk : s.strokes m = properties.map typing) (h : ∀ ps, Sets (typing ps) (pieces ps))
    (hok : ∀ ps, properties = .ok ps → ∃ f, s.file m = .ok f ∧ f.body = pieces ps 0)
    (herror : ∀ e, properties = .error e → s.file m = .error e) (i : Indent) :
    s.typed i m = (s.file m).map (·.generate i) := by
  cases properties with
  | error e =>
    rw [typed, hk, herror e rfl]
    rfl
  | ok ps =>
    obtain ⟨f, hf, hbody⟩ := hok ps rfl
    exact typed_of_sets hk hf (h ps) hbody i

theorem typed_eq (i : Indent) (m : Manifest) (s : Subject) : s.typed i m = (s.file m).map (·.generate i) := by
  cases s with
  | ofClass d =>
    refine typed_of_properties rfl (fun ps => (Typed.sets_block d.kind.decorator (Typed.sets_properties ps)).append
      (Stroke.sets_line (classLine d.name))) ?_ ?_ i
    · intro ps h
      rw [file, classFile, decoratorPieces, configPieces_eq h]
      exact ⟨_, rfl, rfl⟩
    · intro e h
      rw [file, classFile, decoratorPieces, configPieces_error h]
      rfl
  | routes => exact typed_of_sets rfl rfl (Typed.sets_routes m.routes) rfl i
  | application config =>
    refine typed_of_properties rfl Typed.sets_application ?_ ?_ i
    · intro ps h
      rw [file, configFile, configPieces_eq h]
      exact ⟨_, rfl, rfl⟩
    · intro e h
      rw [file, configFile, configPieces_error h]
      rfl

end Subject

def typedFiles (i : Indent) (m : Manifest) :
    List Subject → List Warning × Except GenerationError (List GeneratedFile)
  | [] => ([], .ok [])
  | s :: rest => match s.typed i m with
    | .error e => ([], .error ⟨s.title, s.binding, e⟩)
    | .ok file =>
      (s.warnings m ++ (typedFiles i m rest).1, (typedFiles i m rest).2.map (file :: ·))

def typedPreview (i : Indent) (m : Manifest) : List Warning × Except GenerationError (List GeneratedFile) :=
  ((typedFiles i m (subjects m)).1,
    (typedFiles i m (subjects m)).2.map fun files => files.mergeSort fun a b => Text.noLater a.path b.path)

def filesInTurn (m : Manifest) : List Subject → Except GenerationError (List SourceFile)
  | [] => .ok []
  | s :: rest => do
    let file ← (s.file m).mapError (⟨s.title, s.binding, ·⟩)
    let files ← filesInTurn m rest
    .ok (file :: files)

def warningsInTurn (m : Manifest) : List Subject → List Warning
  | [] => []
  | s :: rest => if (s.file m).isOk then s.warnings m ++ warningsInTurn m rest else []

theorem typedFiles_eq (i : Indent) (m : Manifest) (ss : List Subject) :
    typedFiles i m ss = (warningsInTurn m ss, (filesInTurn m ss).map (·.map (·.generate i))) := by
  induction ss with
  | nil => rfl
  | cons s rest ih =>
    rw [typedFiles, warningsInTurn, filesInTurn, Subject.typed_eq, ih]
    cases s.file m with
    | error e => rfl
    | ok f => cases filesInTurn m rest <;> rfl

theorem filesInTurn_append (m : Manifest) (ss more : List Subject) : filesInTurn m (ss ++ more) =
    (filesInTurn m ss).bind fun files => (filesInTurn m more).map (files ++ ·) := by
  induction ss with
  | nil => cases h : filesInTurn m more <;> simp [filesInTurn, Except.bind, Except.map, h]
  | cons s rest ih =>
    rw [List.cons_append, filesInTurn, filesInTurn, ih]
    cases s.file m with
    | error e => rfl
    | ok f => cases filesInTurn m rest <;> cases filesInTurn m more <;> rfl

theorem filesInTurn_classes (m : Manifest) (ds : List Declaration) :
    filesInTurn m (ds.map .ofClass) = classFiles m ds := by
  induction ds with
  | nil => rfl
  | cons d rest ih =>
    rw [List.map_cons, filesInTurn, classFiles, ih]
    rfl

theorem filesInTurn_routes (m : Manifest) :
    filesInTurn m (if m.routes = [] then [] else [.routes]) = .ok (routesFiles m) := by
  rw [routesFiles]
  cases m.routes <;> rfl

theorem filesInTurn_application (m : Manifest) :
    filesInTurn m (m.application.toList.map .application) = configFiles m := by
  rw [configFiles]
  cases m.application <;> rfl

theorem sourceFiles_inTurn (m : Manifest) : sourceFiles m =
    (filesInTurn m (subjects m)).map fun files => files.mergeSort fun a b => Text.noLater a.path b.path := by
  rw [sourceFiles, subjects, filesInTurn_append, filesInTurn_append, filesInTurn_classes, filesInTurn_routes,
    filesInTurn_application]
  cases classFiles m m.classes with
  | error why => rfl
  | ok classes => cases configFiles m <;> rfl

theorem warningsInTurn_of_ok {m : Manifest} {ss : List Subject} {files : List SourceFile}
    (h : filesInTurn m ss = .ok files) : warningsInTurn m ss = ss.flatMap (Subject.warnings m) := by
  induction ss generalizing files with
  | nil => rfl
  | cons s rest ih =>
    rw [filesInTurn, bind_eq_ok] at h
    obtain ⟨file, hfile, h⟩ := h
    obtain ⟨more, hmore, -⟩ := bind_eq_ok.mp h
    rw [warningsInTurn, mapError_eq_ok.mp hfile, ih hmore]
    rfl

theorem typedPreview_eq (i : Indent) (m : Manifest) :
    typedPreview i m = (warningsInTurn m (subjects m), preview i m) := by
  rw [typedPreview, typedFiles_eq, preview, sourceFiles_inTurn]
  cases filesInTurn m (subjects m) with
  | error why => rfl
  | ok files =>
    have hsort : (files.mergeSort fun a b => Text.noLater a.path b.path).map (·.generate i) =
        (files.map (·.generate i)).mergeSort fun a b => Text.noLater a.path b.path :=
      List.map_mergeSort fun _ _ _ _ => rfl
    rw [Except.map, Except.map, Except.map, Except.map, hsort]

/-- Typing the files of a manifest with any indentation gives the files that are generated with it. What is warned
about does not depend on the indentation, and either the same goes wrong with every indentation, or the files are
the same pieces at the same levels, each level of which is written as the indentation has it. -/
theorem preview_indented (m : Manifest) : ∃ log : List Warning,
    (∀ i, typedPreview i m = (log, preview i m)) ∧
      ((∃ why, ∀ i, preview i m = .error why) ∨
        ∃ files : List (String × List Piece), log = warnings m ∧
          ∀ i, preview i m = .ok (files.map fun f => ⟨f.1, String.join (f.2.map fun p =>
            String.join (List.replicate p.level i.unit) ++ p.text)⟩)) := by
  refine ⟨warningsInTurn m (subjects m), fun i => typedPreview_eq i m, ?_⟩
  cases h : sourceFiles m with
  | error why => exact .inl ⟨why, fun i => by rw [preview, h]; rfl⟩
  | ok sources =>
    rw [sourceFiles_inTurn] at h
    obtain ⟨unsorted, hunsorted, hsorted⟩ := map_eq_ok.mp h
    refine .inr ⟨sources.map fun f => (f.path, f.pieces), ?_, fun i => ?_⟩
    · rw [warningsInTurn_of_ok hunsorted, warnings_subjects]
      rfl
    · rw [preview, sourceFiles_inTurn, h, List.map_map]
      rfl

end AngularScaffold.Angular
