import AngularScaffold.Angular.Generation
import AngularScaffold.Proofs.Layout.Rendered
import AngularScaffold.Proofs.Manifest.Checked
import AngularScaffold.Proofs.TypeScript.ImportTable
import Mathlib.Data.List.Forall2

namespace AngularScaffold.Angular

open Layout TypeScript

inductive Subject where
  | ofClass (d : Declaration)
  | routes
  | application (config : Config)

namespace Subject

def stem : Subject → String
  | ofClass d => Naming.fileStem d.name d.kind.name
  | routes => "app.routes"
  | application _ => "app.config"

def path (s : Subject) : String :=
  s.stem ++ ".ts"

def binding : Subject → String
  | ofClass d => d.name
  | routes => "routes"
  | application _ => "appConfig"

def fixed : Subject → List (String × String)
  | ofClass d => (coreModule, d.kind.decorator) ::
      (Shape.enumTables (.ofClass d.kind) d.config).map fun t => (coreModule, t.name)
  | routes => [(routerModule, "Routes")]
  | application _ => [(coreModule, "ApplicationConfig")]

def expressions (m : Manifest) : Subject → List String
  | ofClass d => classExpressions d
  | routes => routeExpressions m
  | application config => Angular.expressions .application config

def uses (m : Manifest) (s : Subject) : List (String × String) :=
  s.fixed ++ importsForAll m s.binding (s.expressions m)

def imports (m : Manifest) (s : Subject) : List Import :=
  importsOf (s.uses m)

def file (m : Manifest) : Subject → Except PropertyError SourceFile
  | ofClass d => classFile m d
  | routes => .ok (routesFile m)
  | application config => configFile m config

variable {m : Manifest} {s : Subject} {f : SourceFile}

theorem file_eq_ok (h : s.file m = .ok f) : f.stem = s.stem ∧ f.binding = s.binding ∧ f.uses = s.uses m := by
  cases s with
  | ofClass d =>
    rw [file, classFile, bind_eq_ok] at h
    obtain ⟨decorator, -, he⟩ := h
    obtain rfl := Except.ok.inj he
    refine ⟨rfl, rfl, ?_⟩
    simp [uses, fixed, expressions, binding, Function.comp_def]
  | routes =>
    obtain rfl := Except.ok.inj h
    exact ⟨rfl, rfl, rfl⟩
  | application config =>
    rw [file, configFile, bind_eq_ok] at h
    obtain ⟨properties, -, he⟩ := h
    obtain rfl := Except.ok.inj he
    exact ⟨rfl, rfl, rfl⟩

theorem path_file (h : s.file m = .ok f) : f.path = s.path := by
  rw [SourceFile.path, (file_eq_ok h).1, path]

theorem fixed_ne_nil (s : Subject) : s.fixed ≠ [] := by
  cases s <;> simp [fixed]

theorem imports_ne_nil (m : Manifest) (s : Subject) : s.imports m ≠ [] := by
  obtain ⟨u, hu⟩ := List.exists_mem_of_ne_nil _ s.fixed_ne_nil
  obtain ⟨i, hi, -⟩ := mem_importsOf.mpr (List.mem_append_left (importsForAll m s.binding (s.expressions m)) hu)
  exact List.ne_nil_of_mem hi

end Subject

def subjects (m : Manifest) : List Subject :=
  m.classes.map .ofClass ++ (if m.routes = [] then [] else [.routes]) ++
    m.application.toList.map .application

theorem mem_subjects {m : Manifest} {s : Subject} : s ∈ subjects m ↔
    (∃ d ∈ m.classes, s = .ofClass d) ∨ (m.routes ≠ [] ∧ s = .routes) ∨
      ∃ config, m.application = some config ∧ s = .application config := by
  by_cases h : m.routes = [] <;> simp [subjects, h, eq_comm]

theorem classFiles_eq_ok {m : Manifest} {ds : List Declaration} {files : List SourceFile}
    (h : classFiles m ds = .ok files) :
    List.Forall₂ (fun s f => s.file m = .ok f) (ds.map Subject.ofClass) files := by
  induction ds generalizing files with
  | nil =>
    cases h
    exact .nil
  | cons d rest ih =>
    rw [classFiles, bind_eq_ok] at h
    obtain ⟨file, hfile, h⟩ := h
    rw [bind_eq_ok] at h
    obtain ⟨more, hmore, he⟩ := h
    cases he
    exact .cons (mapError_eq_ok.mp hfile) (ih hmore)

theorem configFiles_eq_ok {m : Manifest} {files : List SourceFile} (h : configFiles m = .ok files) :
    List.Forall₂ (fun s f => s.file m = .ok f) (m.application.toList.map Subject.application) files := by
  unfold configFiles at h
  cases hm : m.application with
  | none =>
    rw [hm] at h
    cases h
    exact .nil
  | some config =>
    rw [hm] at h
    obtain ⟨file, hfile, he⟩ := bind_eq_ok.mp h
    cases he
    exact .cons (mapError_eq_ok.mp hfile) .nil

theorem routesFiles_subjects (m : Manifest) : List.Forall₂ (fun s f => Subject.file m s = .ok f)
    (if m.routes = [] then [] else [.routes]) (routesFiles m) := by
  unfold routesFiles
  cases m.routes with
  | nil => exact .nil
  | cons r rest => exact .cons rfl .nil

def FilesOf (m : Manifest) (files : List SourceFile) : Prop :=
  List.Forall₂ (fun s f => Subject.file m s = .ok f) (subjects m) files

namespace FilesOf

variable {m : Manifest} {files : List SourceFile}

theorem mem_iff (h : FilesOf m files) {f : SourceFile} : f ∈ files ↔ ∃ s ∈ subjects m, s.file m = .ok f := by
  have he : (subjects m).map (Subject.file m) = files.map .ok := by
    rw [← List.forall₂_eq_eq_eq, List.forall₂_map_left_iff, List.forall₂_map_right_iff]
    exact h
  have hm : Except.ok f ∈ files.map (Except.ok (ε := PropertyError)) ↔ f ∈ files := by simp
  rw [← hm, ← he, List.mem_map]

theorem exists_file (h : FilesOf m files) {s : Subject} (hs : s ∈ subjects m) : ∃ f ∈ files, s.file m = .ok f := by
  obtain ⟨n, hn, rfl⟩ := List.getElem_of_mem hs
  have hlen : n < files.length := h.length_eq ▸ hn
  exact ⟨files[n], List.getElem_mem hlen, h.get hn hlen⟩

theorem paths (h : FilesOf m files) : files.map SourceFile.path = (subjects m).map Subject.path := by
  rw [← List.forall₂_eq_eq_eq, List.forall₂_map_left_iff, List.forall₂_map_right_iff]
  exact (h.imp fun s f hf => Subject.path_file hf).flip

end FilesOf

theorem preview_eq_ok {i : Indent} {m : Manifest} {files : List GeneratedFile} (h : preview i m = .ok files) :
    ∃ unsorted, FilesOf m unsorted ∧
      files = (unsorted.mergeSort fun a b => Text.noLater a.path b.path).map (·.generate i) := by
  obtain ⟨sources, hs, rfl⟩ := map_eq_ok.mp h
  rw [sourceFiles, bind_eq_ok] at hs
  obtain ⟨classes, hclasses, hs⟩ := hs
  rw [bind_eq_ok] at hs
  obtain ⟨config, hconfig, he⟩ := hs
  cases he
  have hfront := List.rel_append (classFiles_eq_ok hclasses) (routesFiles_subjects m)
  exact ⟨_, List.rel_append hfront (configFiles_eq_ok hconfig), rfl⟩

theorem mem_preview {i : Indent} {m : Manifest} {files : List GeneratedFile} (h : preview i m = .ok files)
    {f : GeneratedFile} :
    f ∈ files ↔ ∃ s ∈ subjects m, ∃ g, s.file m = .ok g ∧ f = g.generate i := by
  obtain ⟨unsorted, hu, rfl⟩ := preview_eq_ok h
  simp only [List.mem_map, List.mem_mergeSort, hu.mem_iff]
  constructor
  · rintro ⟨g, ⟨s, hs, hg⟩, rfl⟩
    exact ⟨s, hs, g, hg, rfl⟩
  · rintro ⟨s, hs, g, hg, rfl⟩
    exact ⟨g, ⟨s, hs, hg⟩, rfl⟩

theorem exists_mem_preview {i : Indent} {m : Manifest} {files : List GeneratedFile} (h : preview i m = .ok files)
    {s : Subject} (hs : s ∈ subjects m) : ∃ g, s.file m = .ok g ∧ g.generate i ∈ files := by
  obtain ⟨unsorted, hu, -⟩ := preview_eq_ok h
  obtain ⟨g, -, hg⟩ := hu.exists_file hs
  exact ⟨g, hg, (mem_preview h).mpr ⟨s, hs, g, hg, rfl⟩⟩

theorem sourceFiles_eq {m : Manifest} {classes config : List SourceFile} (hc : classFiles m m.classes = .ok classes)
    (hg : configFiles m = .ok config) : sourceFiles m =
      .ok ((classes ++ routesFiles m ++ config).mergeSort fun a b => Text.noLater a.path b.path) := by
  rw [sourceFiles, hc, hg]
  rfl

theorem preview_isOk {m : Manifest} (hc : (classFiles m m.classes).isOk) (hg : (configFiles m).isOk) (i : Indent) :
    ∃ files, preview i m = .ok files := by
  obtain ⟨classes, hclasses⟩ := isOk_iff.mp hc
  obtain ⟨config, hconfig⟩ := isOk_iff.mp hg
  exact ⟨_, map_eq_ok.mpr ⟨_, sourceFiles_eq hclasses hconfig, rfl⟩⟩

theorem preview_of_sorted {m : Manifest} {classes config : List SourceFile}
    (hc : classFiles m m.classes = .ok classes) (hg : configFiles m = .ok config)
    (hsorted : (classes ++ routesFiles m ++ config).Pairwise fun a b => Text.noLater a.path b.path = true)
    (i : Indent) : preview i m = .ok ((classes ++ routesFiles m ++ config).map (·.generate i)) := by
  have hfiles := sourceFiles_eq hc hg
  rw [List.mergeSort_of_pairwise hsorted] at hfiles
  exact map_eq_ok.mpr ⟨_, hfiles, rfl⟩

def importBlock (imports : List Import) : String :=
  String.join (imports.map fun i => i.line ++ "\n")

theorem render_imports (i : Indent) (imports : List Import) :
    render i (imports.map fun m => line 0 m.line) = importBlock imports := by
  simp [render, importBlock, Function.comp_def, render_line_zero]

theorem content_file {i : Indent} {m : Manifest} {s : Subject} {f : SourceFile} (h : s.file m = .ok f) :
    (f.generate i).content = importBlock (s.imports m) ++ "\n" ++ render i f.body := by
  have hne : (s.imports m).isEmpty = false := by simpa using s.imports_ne_nil m
  have hi : (ImportTable.empty.addAll f.uses).imports = s.imports m := by
    rw [(Subject.file_eq_ok h).2.2]
    rfl
  simp only [SourceFile.generate, SourceFile.pieces, CodeFile.pieces, CodeFile.separated, hi, hne,
    List.isEmpty_cons, Bool.or_self, Bool.false_eq_true, if_false, render_append, render_imports]
  simp [render, blank, Piece.render, Indent.levels]

theorem generate_eq {i : Indent} {m : Manifest} {s : Subject} {f : SourceFile} (h : s.file m = .ok f) :
    f.generate i = ⟨s.path, importBlock (s.imports m) ++ "\n" ++ render i f.body⟩ := by
  rw [← content_file h, ← Subject.path_file h]
  rfl

def shop : String :=
  "project.name = \"shop\"
application.providers = [\"provideRouter(routes)\"]
routes = [[\"\", \"Home\"]]
components.Home.encapsulation = 0
modules.Shop.imports = [\"Home\", \"Cart\"]
"

def shopFiles : List (String × String × List Import) :=
  [("home.component.ts", "Home", [⟨"@angular/core", ["Component", "ViewEncapsulation"]⟩]),
   ("shop.module.ts", "Shop", [⟨"@angular/core", ["NgModule"]⟩, ⟨"./home.component", ["Home"]⟩]),
   ("app.routes.ts", "routes", [⟨"@angular/router", ["Routes"]⟩, ⟨"./home.component", ["Home"]⟩]),
   ("app.config.ts", "appConfig",
    [⟨"@angular/core", ["ApplicationConfig"]⟩, ⟨"@angular/router", ["provideRouter"]⟩,
     ⟨"./app.routes", ["routes"]⟩])]

def shopHome : GeneratedFile where
  path := "home.component.ts"
  content := "import \x7b Component, ViewEncapsulation \x7d from '@angular/core';\n" ++ "\n" ++
    "@Component(\x7b\n" ++ "\tencapsulation: ViewEncapsulation.Emulated\n" ++ "\x7d)\n" ++
    "export class Home \x7b\x7d\n"

def shopConfig : GeneratedFile where
  path := "app.config.ts"
  content := "import \x7b ApplicationConfig \x7d from '@angular/core';\n" ++
    "import \x7b provideRouter \x7d from '@angular/router';\n" ++
    "import \x7b routes \x7d from './app.routes';\n" ++ "\n" ++
    "export const appConfig: ApplicationConfig = \x7b\n" ++ "\tproviders: [provideRouter(routes)]\n" ++ "\x7d;\n"

theorem shop_subjects : ∃ m, Manifest.read "shop.toml" shop = .ok m ∧
    (∀ i, ∃ files, preview i m = .ok files) ∧
    (subjects m).map (fun s => (s.path, s.binding, s.imports m)) = shopFiles ∧
    warnings m = [⟨"Cart", "Shop"⟩] ∧
    ∀ f ∈ [shopHome, shopConfig], ∃ s ∈ subjects m, ∃ g, s.file m = .ok g ∧ g.generate .tab = f := by
  have h : ∃ m, Manifest.read "shop.toml" shop = .ok m ∧ (classFiles m m.classes).isOk ∧ (configFiles m).isOk ∧
      (subjects m).map (fun s => (s.path, s.binding, s.imports m)) = shopFiles ∧
      warnings m = [⟨"Cart", "Shop"⟩] ∧
      ∀ f ∈ [shopHome, shopConfig], ∃ s ∈ subjects m, ∃ g, s.file m = .ok g ∧ g.generate .tab = f := by
    decide +kernel
  obtain ⟨m, hr, hc, hg, hs, hw, hf⟩ := h
  exact ⟨m, hr, preview_isOk hc hg, hs, hw, hf⟩

end AngularScaffold.Angular
