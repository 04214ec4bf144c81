import AngularScaffold.Proofs.Angular.Imports

namespace AngularScaffold.Angular

open Layout TypeScript

namespace Subject

variable {m : Manifest} {s : Subject} {module other name : String}

def bound (m : Manifest) (s : Subject) : List String :=
  s.binding :: (s.imports m).flatMap (·.symbols)

theorem mem_symbols : name ∈ (s.imports m).flatMap (·.symbols) ↔ ∃ module, (module, name) ∈ s.uses m := by
  rw [List.mem_flatMap]
  constructor
  · rintro ⟨i, hi, hname⟩
    exact ⟨i.module, mem_importsOf.mp ⟨i, hi, rfl, hname⟩⟩
  · rintro ⟨module, huse⟩
    obtain ⟨i, hi, -, hname⟩ := mem_importsOf.mpr huse
    exact ⟨i, hi, hname⟩

theorem binding_notMem_symbols (hm : Manifest.Checked m) :
    s.binding ∉ (s.imports m).flatMap (·.symbols) ↔ ∀ module, ¬s.Fixed module s.binding := by
  rw [mem_symbols, not_exists]
  refine forall_congr' fun module => not_congr ?_
  rw [mem_uses hm]
  constructor
  · rintro (hfixed | ⟨⟨e, -, -, hne⟩, -⟩)
    · exact hfixed
    · exact absurd rfl hne
  · exact .inl

theorem nodup_symbols (hm : Manifest.Checked m) : ((s.imports m).flatMap (·.symbols)).Nodup ↔
    ∀ module other name, s.Fixed module name → s.Refers m name → Resolves m name other → other = module := by
  rw [imports, nodup_symbols_importsOf]
  simp only [mem_uses hm]
  constructor
  · intro h module other name hfixed href hresolves
    exact h other module name (.inr ⟨href, hresolves⟩) (.inl hfixed)
  · rintro h module other name (hfixed | ⟨href, hresolves⟩) (hfixed' | ⟨href', hresolves'⟩)
    · exact hfixed.module_eq.trans hfixed'.module_eq.symm
    · exact (h module other name hfixed href' hresolves').symm
    · exact h other module name hfixed' href hresolves
    · exact hresolves.unique hm hresolves'

/-- The names that a file always imports are not its own, and where it refers to one of them, the name
resolves to the module it is imported from anyway. -/
structure Unshadowed (m : Manifest) (s : Subject) : Prop where
  own : ∀ module name, s.Fixed module name → name ≠ s.binding
  elsewhere : ∀ module other name, s.Fixed module name → s.Refers m name → Resolves m name other → other = module

theorem nodup_bound (hm : Manifest.Checked m) : (s.bound m).Nodup ↔ s.Unshadowed m := by
  rw [bound, List.nodup_cons, binding_notMem_symbols hm, nodup_symbols hm]
  constructor
  · rintro ⟨hown, helsewhere⟩
    refine ⟨fun module name hfixed he => ?_, helsewhere⟩
    subst he
    exact hown module hfixed
  · intro h
    exact ⟨fun module hfixed => h.own module _ hfixed rfl, h.elsewhere⟩

end Subject

/-- A file binds no name twice exactly if the names that it always imports are unshadowed. -/
theorem preview_bindings {fileName source : String} {m : Manifest} (hr : Manifest.read fileName source = .ok m)
    {i : Indent} {files : List GeneratedFile} (hp : preview i m = .ok files) :
    ∀ f ∈ files, ∃ s ∈ subjects m, ∃ g, s.file m = .ok g ∧
      f = ⟨s.path, importBlock (s.imports m) ++ "\n" ++ render i g.body⟩ ∧
      ((s.bound m).Nodup ↔ s.Unshadowed m) := by
  have hm := Manifest.checked_of_read hr
  intro f hf
  obtain ⟨s, hs, g, hg, rfl⟩ := (mem_preview hp).mp hf
  exact ⟨s, hs, g, hg, generate_eq hg, Subject.nodup_bound hm⟩

theorem shop_bindings : ∃ m files, Manifest.read "shop.toml" shop = .ok m ∧ preview .tab m = .ok files ∧
    ∀ f ∈ files, ∃ s ∈ subjects m, f.path = s.path ∧ (s.bound m).Nodup ∧ s.Unshadowed m := by
  obtain ⟨m, hr, hp, hrows, -⟩ := shop_subjects
  obtain ⟨files, hfiles⟩ := hp .tab
  refine ⟨m, files, hr, hfiles, fun f hf => ?_⟩
  obtain ⟨s, hs, g, -, rfl, hiff⟩ := preview_bindings hr hfiles f hf
  have hrow : (s.path, s.binding, s.imports m) ∈ shopFiles := hrows ▸ List.mem_map.mpr ⟨s, hs, rfl⟩
  have hnodup : (s.bound m).Nodup := by
    have hall : ∀ row ∈ shopFiles, (row.2.1 :: row.2.2.flatMap (·.symbols)).Nodup := by decide
    exact hall _ hrow
  exact ⟨s, hs, rfl, hnodup, hiff.mp hnodup⟩

def shadowed : String :=
  "[project]
name = \"x\"
[components.Component]
"

def shadowedFile : GeneratedFile where
  path := "component.component.ts"
  content := "import \x7b Component \x7d from '@angular/core';

@Component(\x7b
\x7d)
export class Component \x7b\x7d
"

/-- A component that is named like its own decorator is imported into the file that declares it. -/
theorem component_bound_twice : ∃ m files, Manifest.read "ngwrite.toml" shadowed = .ok m ∧
    preview (.spaces 2) m = .ok files ∧ shadowedFile ∈ files ∧
    ∃ s ∈ subjects m, s.path = shadowedFile.path ∧ ¬(s.bound m).Nodup := by
  have h : ∃ m, Manifest.read "ngwrite.toml" shadowed = .ok m ∧ (classFiles m m.classes).isOk ∧
      (configFiles m).isOk ∧ ∃ s ∈ subjects m, s.path = shadowedFile.path ∧ ¬(s.bound m).Nodup ∧
        ∃ g, s.file m = .ok g ∧ g.generate (.spaces 2) = shadowedFile := by
    decide +kernel
  obtain ⟨m, hr, hc, hg, s, hs, hpath, hbound, g, hfile, htext⟩ := h
  obtain ⟨files, hfiles⟩ := preview_isOk hc hg (.spaces 2)
  have hmem : shadowedFile ∈ files := (mem_preview hfiles).mpr ⟨s, hs, g, hfile, htext.symm⟩
  exact ⟨m, files, hr, hfiles, hmem, s, hs, hpath, hbound⟩

end AngularScaffold.Angular
