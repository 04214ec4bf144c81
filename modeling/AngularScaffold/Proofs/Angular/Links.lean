import AngularScaffold.Proofs.Angular.Imports

namespace AngularScaffold.Angular

open Layout TypeScript

def HasLine (text line : String) : Prop :=
  '\n' ∉ line.toList ∧ ∃ front back, text = front ++ "\n" ++ line ++ "\n" ++ back

def LastLine (text line : String) : Prop :=
  '\n' ∉ line.toList ∧ ∃ front, text = front ++ "\n" ++ line ++ "\n"

theorem append_line (front line back : String) : front ++ (line ++ "\n" ++ back) = front ++ line ++ "\n" ++ back := by
  simp only [String.append_assoc]

theorem append_last_line (front text before line : String) :
    front ++ (text ++ (before ++ "\n") ++ (line ++ "\n")) = front ++ (text ++ before) ++ "\n" ++ line ++ "\n" := by
  simp only [String.append_assoc]

theorem toList_classLine (name : String) :
    (classLine name).toList = "export class ".toList ++ name.toList ++ " \x7b\x7d".toList :=
  String.toList_append.trans (congrArg (· ++ _) String.toList_append)

theorem newline_notMem_classLine {name : String} (h : Naming.Bindable name) : '\n' ∉ (classLine name).toList := by
  have hname : '\n' ∉ name.toList := fun hn => absurd (h.inIdentifier hn) (by decide)
  rw [toList_classLine]
  intro hline
  rcases List.mem_append.mp hline with hline | hback
  · rcases List.mem_append.mp hline with hfront | hmid
    · exact absurd hfront (by decide)
    · exact hname hmid
  · exact absurd hback (by decide)

variable {m : Manifest} {i : Indent}

theorem lastLine_ofClass {d : Declaration} (hd : Naming.Bindable d.name) {f : SourceFile}
    (h : (Subject.ofClass d).file m = .ok f) :
    LastLine (f.generate i).content ("export class " ++ d.name ++ " \x7b\x7d") := by
  refine ⟨newline_notMem_classLine hd, ?_⟩
  have hcontent := content_file (i := i) h
  rw [Subject.file, classFile, bind_eq_ok] at h
  obtain ⟨decorator, hdecorator, he⟩ := h
  obtain rfl := Except.ok.inj he
  obtain ⟨inner, -, rfl⟩ := map_eq_ok.mp hdecorator
  refine ⟨importBlock ((Subject.ofClass d).imports m) ++ "\n" ++
    (render i (line 0 ("@" ++ d.kind.decorator ++ "(\x7b") :: inner) ++ "\x7d)"), ?_⟩
  rw [hcontent, decorated, ← List.cons_append, render_append, render_append, render_line, render_line]
  exact append_last_line _ _ _ _

theorem hasLine_routes {f : SourceFile} (h : Subject.routes.file m = .ok f) :
    HasLine (f.generate i).content "export const routes: Routes = [" := by
  refine ⟨by decide, ?_⟩
  have hcontent := content_file (i := i) h
  obtain rfl := Except.ok.inj h
  refine ⟨importBlock (Subject.routes.imports m), render i (m.routes.flatMap (routePieces (0 + 1)) ++ [line 0 "];"]), ?_⟩
  rw [hcontent]
  show _ ++ render i (line 0 "export const routes: Routes = [" :: _) = _
  rw [render_cons, render_line_zero]
  exact append_line _ _ _

theorem classKind?_eq_some {name : String} {kind : ClassKind} (h : m.classKind? name = some kind) :
    ∃ d ∈ m.classes, d.name = name ∧ d.kind = kind := by
  obtain ⟨d, hd, hkind⟩ := Option.map_eq_some_iff.mp h
  exact ⟨d, List.mem_of_find?_eq_some hd, by simpa using List.find?_some hd, hkind⟩

theorem classKind?_eq_none {name : String} (h : m.classKind? name = none) : ∀ d ∈ m.classes, d.name ≠ name := by
  simpa using Option.map_eq_none_iff.mp h

section Links

variable {files : List GeneratedFile} {name : String}

theorem exists_class_file (hm : Manifest.Checked m) (hp : preview i m = .ok files) {d : Declaration}
    (hd : d ∈ m.classes) : ∃ target ∈ files, target.path = d.stem ++ ".ts" ∧
      LastLine target.content ("export class " ++ d.name ++ " \x7b\x7d") := by
  obtain ⟨g, hg, hmem⟩ := exists_mem_preview hp (mem_subjects.mpr (.inl ⟨d, hd, rfl⟩))
  have hpath := Subject.path_file hg
  exact ⟨_, hmem, hpath, lastLine_ofClass (hm.classNames d hd) hg⟩

theorem exists_routes_file (hp : preview i m = .ok files) (h : m.routes ≠ []) :
    ∃ target ∈ files, target.path = "app.routes.ts" ∧
      HasLine target.content "export const routes: Routes = [" := by
  obtain ⟨g, hg, hmem⟩ := exists_mem_preview hp (mem_subjects.mpr (.inr (.inl ⟨h, rfl⟩)))
  have hpath := Subject.path_file hg
  exact ⟨_, hmem, hpath, hasLine_routes hg⟩

theorem Subject.Refers.imported (hm : Manifest.Checked m) {s : Subject} (h : s.Refers m name) {module : String}
    (hs : sourceOf? m name = some module) : ∃ j ∈ s.imports m, j.module = module ∧ name ∈ j.symbols :=
  mem_importsOf.mpr ((Subject.mem_uses hm).mpr (.inr ⟨h, (sourceOf?_eq_some hm).mp hs⟩))

end Links

structure Subject.Linked (m : Manifest) (files : List GeneratedFile) (s : Subject) : Prop where
  classes : ∀ name kind, s.Refers m name → m.classKind? name = some kind →
    ∃ p, p = Naming.fileStem name kind.name ∧ sourceOf? m name = some ("./" ++ p) ∧
      (∃ j ∈ s.imports m, j.module = "./" ++ p ∧ name ∈ j.symbols) ∧
      ∃ target ∈ files, target.path = p ++ ".ts" ∧
        LastLine target.content ("export class " ++ name ++ " \x7b\x7d")
  routes : s.Refers m "routes" → m.classKind? "routes" = none → m.routes ≠ [] →
    sourceOf? m "routes" = some "./app.routes" ∧
      (∃ j ∈ s.imports m, j.module = "./app.routes" ∧ "routes" ∈ j.symbols) ∧
      ∃ target ∈ files, target.path = "app.routes.ts" ∧
        HasLine target.content "export const routes: Routes = ["

/-- Imports between the files of a manifest lead to declarations. -/
theorem preview_linked {fileName source : String} (hr : Manifest.read fileName source = .ok m)
    {files : List GeneratedFile} (hp : preview i m = .ok files) :
    ∀ f ∈ files, ∃ s ∈ subjects m, ∃ g, s.file m = .ok g ∧
      f = ⟨s.path, importBlock (s.imports m) ++ "\n" ++ render i g.body⟩ ∧ s.Linked m files := by
  have hm := Manifest.checked_of_read hr
  intro f hf
  obtain ⟨s, hs, g, hg, rfl⟩ := (mem_preview hp).mp hf
  refine ⟨s, hs, g, hg, generate_eq hg, ?classes, ?routes⟩
  case classes =>
    intro name kind href hkind
    obtain ⟨d, hd, rfl, rfl⟩ := classKind?_eq_some hkind
    have hsource := sourceOf?_class (hm.find?_name hd)
    exact ⟨d.stem, rfl, hsource, href.imported hm hsource, exists_class_file hm hp hd⟩
  case routes =>
    intro href hkind hroutes
    have hsource := sourceOf?_routes (classKind?_eq_none hkind) rfl hroutes
    exact ⟨hsource, href.imported hm hsource, exists_routes_file hp hroutes⟩

theorem shop_linked : ∃ m files, Manifest.read "shop.toml" shop = .ok m ∧ preview .tab m = .ok files ∧
    ∃ s ∈ subjects m, s.path = "shop.module.ts" ∧ s.Refers m "Home" ∧ s.Linked m files := by
  obtain ⟨m, hr, hp, hrows, -⟩ := shop_subjects
  obtain ⟨files, hfiles⟩ := hp .tab
  have hrow : ("shop.module.ts", "Shop", [⟨"@angular/core", ["NgModule"]⟩, ⟨"./home.component", ["Home"]⟩]) ∈
      (subjects m).map fun s => (s.path, s.binding, s.imports m) := by
    rw [hrows]
    exact .tail _ (.head _)
  obtain ⟨t, ht, he⟩ := List.mem_map.mp hrow
  obtain ⟨g, hg, hmem⟩ := exists_mem_preview hfiles ht
  obtain ⟨s, hs, g', -, hf, hlinked⟩ := preview_linked hr hfiles _ hmem
  have hpath : s.path = "shop.module.ts" := by
    rw [generate_eq hg] at hf
    exact (congrArg GeneratedFile.path hf).symm.trans (congrArg Prod.fst he)
  have hmine : (s.path, s.binding, s.imports m) ∈ shopFiles := hrows ▸ List.mem_map.mpr ⟨s, hs, rfl⟩
  obtain ⟨-, himports⟩ : s.binding = "Shop" ∧
      s.imports m = [⟨"@angular/core", ["NgModule"]⟩, ⟨"./home.component", ["Home"]⟩] := by
    simpa [hpath, shopFiles] using hmine
  have huse : ("./home.component", "Home") ∈ s.uses m := by
    apply mem_importsOf.mp
    show ∃ j ∈ s.imports m, _
    rw [himports]
    exact ⟨_, .tail _ (.head _), rfl, .head _⟩
  rcases (Subject.mem_uses (Manifest.checked_of_read hr)).mp huse with hfixed | ⟨href, -⟩
  · have hmodule := hfixed.module_eq
    cases s <;> simp [Subject.home] at hmodule
  · exact ⟨m, files, hr, hfiles, s, hs, hpath, href, hlinked⟩

end AngularScaffold.Angular
