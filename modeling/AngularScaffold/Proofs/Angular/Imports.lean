import AngularScaffold.Proofs.Angular.Resolves
import AngularScaffold.Proofs.Angular.Subjects

/-!
What files import. Main statement: besides the names that a file always imports it imports those that its
expressions refer to and that resolve, and every other name an expression starts with is warned about.
-/

namespace AngularScaffold.Angular

open Layout TypeScript

namespace Subject

inductive Fixed : Subject → String → String → Prop
  | decorator {d : Declaration} : Fixed (ofClass d) "@angular/core" d.kind.decorator
  | enumeration {d : Declaration} {key : String} {table : EnumTable} : key ∈ d.config.keys →
      (key, .member table) ∈ (Shape.ofClass d.kind).rules → Fixed (ofClass d) "@angular/core" table.name
  | routes : Fixed routes "@angular/router" "Routes"
  | application {config : Config} : Fixed (application config) "@angular/core" "ApplicationConfig"

def home : Subject → String
  | routes => "@angular/router"
  | _ => "@angular/core"

theorem Fixed.module_eq {s : Subject} {module name : String} (h : s.Fixed module name) : module = s.home := by
  cases h <;> rfl

/-- The expressions of a file: the items of the lists under keys of references, and the components of routes. -/
inductive Mentions (m : Manifest) : Subject → String → Prop
  | ofClass {d : Declaration} {key : String} {items : List Value} {item : Value} :
      (key, .list items) ∈ d.config.entries → (key, .references) ∈ (Shape.ofClass d.kind).rules →
      item ∈ items → Mentions m (ofClass d) item.write
  | ofRoute {r : Route} : r ∈ m.routes → Mentions m routes r.component
  | ofApplication {config : Config} {key : String} {items : List Value} {item : Value} :
      (key, .list items) ∈ config.entries → (key, .references) ∈ Shape.application.rules →
      item ∈ items → Mentions m (application config) item.write

def Refers (m : Manifest) (s : Subject) (name : String) : Prop :=
  ∃ expression, s.Mentions m expression ∧ name ∈ Expression.identifiers expression ∧ name ≠ s.binding

end Subject

theorem nodup_keys_rules (shape : Shape) : (Pairs.keys shape.rules).Nodup := by
  rcases shape with ⟨⟨⟩⟩ | _ <;> decide

theorem rule?_eq_some {shape : Shape} {key : String} {rule : KeyRule} :
    shape.rule? key = some rule ↔ (key, rule) ∈ shape.rules :=
  Pairs.get?_eq_some (nodup_keys_rules shape)

theorem mem_enumTables {shape : Shape} {config : Config} {table : EnumTable} :
    table ∈ shape.enumTables config ↔ ∃ key ∈ config.keys, (key, .member table) ∈ shape.rules := by
  rw [Shape.enumTables, List.mem_filterMap]
  refine exists_congr fun key => and_congr_right fun _ => ?_
  rw [← rule?_eq_some]
  constructor
  · intro h
    split at h
    · rename_i found hrule
      rw [hrule, Option.some.inj h]
    · cases h
  · intro h
    rw [h]

theorem mem_referencesIn {shape : Shape} {key : String} {value item : Value} :
    item ∈ shape.referencesIn key value ↔
      ∃ items, value = .list items ∧ (key, .references) ∈ shape.rules ∧ item ∈ items := by
  rw [← rule?_eq_some]
  unfold Shape.referencesIn
  constructor
  · intro h
    split at h
    · rename_i items hrule
      exact ⟨items, rfl, hrule, h⟩
    · cases h
  · rintro ⟨items, rfl, hrule, hitem⟩
    rw [hrule]
    exact hitem

theorem mem_expressions {shape : Shape} {config : Config} {e : String} :
    e ∈ expressions shape config ↔ ∃ key items item, (key, .list items) ∈ config.entries ∧
      (key, .references) ∈ shape.rules ∧ item ∈ items ∧ e = item.write := by
  simp only [expressions, Shape.references, List.mem_map, List.mem_flatMap, mem_referencesIn]
  constructor
  · rintro ⟨item, ⟨⟨key, value⟩, hentry, items, rfl, hrule, hitem⟩, rfl⟩
    exact ⟨key, items, item, hentry, hrule, hitem, rfl⟩
  · rintro ⟨key, items, item, hentry, hrule, hitem, rfl⟩
    exact ⟨item, ⟨(key, .list items), hentry, items, rfl, hrule, hitem⟩, rfl⟩

namespace Subject

variable {m : Manifest} {s : Subject} {module name e : String}

theorem mem_fixed : (module, name) ∈ s.fixed ↔ s.Fixed module name := by
  constructor
  · intro h
    cases s with
    | ofClass d =>
      rw [fixed, List.mem_cons, List.mem_map] at h
      rcases h with h | ⟨table, htable, h⟩
      · cases h
        exact .decorator
      · obtain ⟨key, hkey, hrule⟩ := mem_enumTables.mp htable
        cases h
        exact .enumeration hkey hrule
    | routes =>
      cases List.mem_singleton.mp h
      exact .routes
    | application config =>
      cases List.mem_singleton.mp h
      exact .application
  · intro h
    cases h with
    | decorator => exact List.mem_cons_self
    | enumeration hkey hrule =>
      exact List.mem_cons_of_mem _ (List.mem_map.mpr ⟨_, mem_enumTables.mpr ⟨_, hkey, hrule⟩, rfl⟩)
    | routes => exact List.mem_cons_self
    | application => exact List.mem_cons_self

theorem mem_expressions_iff : e ∈ s.expressions m ↔ s.Mentions m e := by
  constructor
  · intro h
    cases s with
    | ofClass d =>
      obtain ⟨key, items, item, hentry, hrule, hitem, rfl⟩ := mem_expressions.mp h
      exact .ofClass hentry hrule hitem
    | routes =>
      obtain ⟨r, hr, rfl⟩ := List.mem_map.mp h
      exact .ofRoute hr
    | application config =>
      obtain ⟨key, items, item, hentry, hrule, hitem, rfl⟩ := mem_expressions.mp h
      exact .ofApplication hentry hrule hitem
  · intro h
    cases h with
    | ofClass hentry hrule hitem => exact mem_expressions.mpr ⟨_, _, _, hentry, hrule, hitem, rfl⟩
    | ofRoute hr => exact List.mem_map.mpr ⟨_, hr, rfl⟩
    | ofApplication hentry hrule hitem => exact mem_expressions.mpr ⟨_, _, _, hentry, hrule, hitem, rfl⟩

theorem mem_uses (hm : Manifest.Checked m) :
    (module, name) ∈ s.uses m ↔ s.Fixed module name ∨ s.Refers m name ∧ Resolves m name module := by
  rw [uses, List.mem_append, mem_fixed, importsForAll, List.mem_flatMap]
  refine or_congr_right ?_
  constructor
  · rintro ⟨e, he, hused⟩
    obtain ⟨hname, hne, hsource⟩ := mem_importsFor.mp hused
    exact ⟨⟨e, mem_expressions_iff.mp he, hname, hne⟩, (sourceOf?_eq_some hm).mp hsource⟩
  · rintro ⟨⟨e, he, hname, hne⟩, hresolves⟩
    exact ⟨e, mem_expressions_iff.mpr he, mem_importsFor.mpr ⟨hname, hne, (sourceOf?_eq_some hm).mpr hresolves⟩⟩

end Subject

theorem warnings_subjects (m : Manifest) :
    warnings m = (subjects m).flatMap fun s => (s.expressions m).flatMap (warningsFor m s.binding) := by
  have hroutes : (if m.routes = [] then [] else [Subject.routes]).flatMap
      (fun s => (s.expressions m).flatMap (warningsFor m s.binding)) =
      (routeExpressions m).flatMap (warningsFor m routesName) := by
    by_cases h : m.routes = []
    · simp [h, routeExpressions]
    · simp [h, Subject.expressions, Subject.binding, routesName]
  rw [subjects, List.flatMap_append, List.flatMap_append, hroutes, List.flatMap_map, List.flatMap_map]
  rfl

open scoped Classical in
theorem warningsFor_eq {m : Manifest} (hm : Manifest.Checked m) (binding : String) :
    warningsFor m binding = fun e => ((Expression.identifiers e).filter fun name => name ≠ binding ∧
      (∀ module, ¬Resolves m name module) ∧ Naming.leadingIdentifier? e = some name).map (⟨·, binding⟩) := by
  funext e
  rw [warningsFor, foreignNames, List.filter_filter]
  congr 1
  apply List.filter_congr
  intro name _
  rw [Bool.eq_iff_iff]
  simp [← sourceOf?_eq_none hm]
  tauto

structure Subject.ImportsExactly (m : Manifest) (s : Subject) (imports : List Import) : Prop where
  pairs : ∀ module symbol, (∃ i ∈ imports, i.module = module ∧ symbol ∈ i.symbols) ↔
    s.Fixed module symbol ∨ s.Refers m symbol ∧ Resolves m symbol module
  modules : imports.map (·.module) = ((s.uses m).map (·.1)).eraseDups
  distinct : (imports.map (·.module)).Nodup
  symbols : ∀ i ∈ imports, i.symbols ≠ [] ∧ Text.Ascending i.symbols

open scoped Classical in
/-- Every file starts with the lines of its imports, and there is one warning for every time that a name
which is not imported starts an expression. -/
theorem preview_imports {fileName source : String} {m : Manifest} (hr : Manifest.read fileName source = .ok m)
    {i : Indent} {files : List GeneratedFile} (hp : preview i m = .ok files) :
    (∀ f ∈ files, ∃ s ∈ subjects m, ∃ g imports, s.file m = .ok g ∧ s.ImportsExactly m imports ∧
      f = ⟨s.path, importBlock imports ++ "\n" ++ render i g.body⟩) ∧
    warnings m = (subjects m).flatMap fun s => (s.expressions m).flatMap fun e =>
      ((Expression.identifiers e).filter fun name => name ≠ s.binding ∧
        (∀ module, ¬Resolves m name module) ∧ Naming.leadingIdentifier? e = some name).map (⟨·, s.binding⟩) := by
  have hm := Manifest.checked_of_read hr
  constructor
  · intro f hf
    obtain ⟨s, hs, g, hg, rfl⟩ := (mem_preview hp).mp hf
    refine ⟨s, hs, g, s.imports m, hg, ?_, generate_eq hg⟩
    refine ⟨fun module symbol => ?_, modules_importsOf _, nodup_modules_importsOf _, fun i hi => symbols_importsOf hi⟩
    rw [Subject.imports, mem_importsOf, Subject.mem_uses hm]
  · rw [warnings_subjects]
    simp only [warningsFor_eq hm]

theorem shop_imports : ∃ m files, Manifest.read "shop.toml" shop = .ok m ∧ preview .tab m = .ok files ∧
    (∀ f ∈ files, ∃ s ∈ subjects m, ∃ g imports, s.file m = .ok g ∧ s.ImportsExactly m imports ∧
      f = ⟨s.path, importBlock imports ++ "\n" ++ render .tab g.body⟩) ∧
    warnings m = [⟨"Cart", "Shop"⟩] ∧ shopHome ∈ files ∧ shopConfig ∈ files := by
  obtain ⟨m, hr, hp, -, hw, htexts⟩ := shop_subjects
  obtain ⟨files, hfiles⟩ := hp .tab
  have hmem : ∀ f ∈ [shopHome, shopConfig], f ∈ files := by
    intro f hf
    obtain ⟨s, hs, g, hg, rfl⟩ := htexts f hf
    exact (mem_preview hfiles).mpr ⟨s, hs, g, hg, rfl⟩
  exact ⟨m, files, hr, hfiles, (preview_imports hr hfiles).1, hw, hmem _ (.head _), hmem _ (.tail _ (.head _))⟩

end AngularScaffold.Angular
