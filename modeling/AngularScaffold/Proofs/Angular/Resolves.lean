import AngularScaffold.Angular.Resolution
import AngularScaffold.Proofs.Manifest.Checked
import AngularScaffold.Proofs.TypeScript.ImportTable

namespace AngularScaffold.Angular

/-- A name resolves to the first of four sources that has it: the classes of the manifest, its routes, its
symbols and the names that the framework exports. -/
inductive Resolves (m : Manifest) (name : String) : String → Prop
  | ofClass {d : Declaration} : d ∈ m.classes → d.name = name → Resolves m name ("./" ++ d.stem)
  | ofRoutes : (∀ d ∈ m.classes, d.name ≠ name) → name = "routes" → m.routes ≠ [] →
      Resolves m name "./app.routes"
  | ofSymbols {module : String} : (∀ d ∈ m.classes, d.name ≠ name) → ¬(name = "routes" ∧ m.routes ≠ []) →
      (name, module) ∈ m.symbols.entries → Resolves m name module
  | ofFramework {module : String} : (∀ d ∈ m.classes, d.name ≠ name) →
      ¬(name = "routes" ∧ m.routes ≠ []) → name ∉ m.symbols.keys → (name, module) ∈ wellKnown →
      Resolves m name module

theorem nodup_keys_wellKnown : (Pairs.keys wellKnown).Nodup := by
  decide

theorem wellKnown?_eq_some {name module : String} : wellKnown? name = some module ↔ (name, module) ∈ wellKnown :=
  Pairs.get?_eq_some nodup_keys_wellKnown

variable {m : Manifest} {name module : String}

theorem sourceOf?_class {d : Declaration} (h : m.classes.find? (·.name == name) = some d) :
    sourceOf? m name = some ("./" ++ d.stem) := by
  rw [sourceOf?, h]
  rfl

theorem sourceOf?_routes (hc : ∀ d ∈ m.classes, d.name ≠ name) (hn : name = "routes") (hr : m.routes ≠ []) :
    sourceOf? m name = some "./app.routes" := by
  have hf : m.classes.find? (·.name == name) = none := by simpa using hc
  have hb : (name == routesName && !m.routes.isEmpty) = true := by simpa [routesName] using ⟨hn, hr⟩
  rw [sourceOf?, hf]
  simp only [hb, if_true]
  rfl

theorem sourceOf?_declared (hc : ∀ d ∈ m.classes, d.name ≠ name) (hr : ¬(name = "routes" ∧ m.routes ≠ [])) :
    sourceOf? m name = (m.symbols.get? name).or (wellKnown? name) := by
  have hf : m.classes.find? (·.name == name) = none := by simpa using hc
  have hb : (name == routesName && !m.routes.isEmpty) = false := by
    rw [Bool.eq_false_iff]
    intro h
    exact hr (by simpa [routesName] using h)
  rw [sourceOf?, hf]
  simp only [hb, Bool.false_eq_true, if_false]
  cases m.symbols.get? name <;> rfl

theorem resolves_of_sourceOf? (h : sourceOf? m name = some module) : Resolves m name module := by
  cases hf : m.classes.find? (·.name == name) with
  | some d =>
    rw [sourceOf?_class hf] at h
    cases h
    exact .ofClass (List.mem_of_find?_eq_some hf) (by simpa using List.find?_some hf)
  | none =>
    have hc : ∀ d ∈ m.classes, d.name ≠ name := by simpa using hf
    by_cases hr : name = "routes" ∧ m.routes ≠ []
    · rw [sourceOf?_routes hc hr.1 hr.2] at h
      cases h
      exact .ofRoutes hc hr.1 hr.2
    · rw [sourceOf?_declared hc hr] at h
      cases hs : m.symbols.get? name with
      | some declared =>
        rw [hs] at h
        cases h
        exact .ofSymbols hc hr ((Pairs.get?_eq_some m.symbols.distinct).mp hs)
      | none =>
        rw [hs] at h
        exact .ofFramework hc hr (Pairs.get?_eq_none.mp hs) (wellKnown?_eq_some.mp h)

theorem sourceOf?_of_resolves (hm : Manifest.Checked m) (h : Resolves m name module) :
    sourceOf? m name = some module := by
  cases h with
  | ofClass hd hn => exact sourceOf?_class (hn ▸ hm.find?_name hd)
  | ofRoutes hc hn hr => exact sourceOf?_routes hc hn hr
  | ofSymbols hc hr hs =>
    rw [sourceOf?_declared hc hr, OrderedMap.get?, (Pairs.get?_eq_some m.symbols.distinct).mpr hs]
    rfl
  | ofFramework hc hr hs hw =>
    rw [sourceOf?_declared hc hr, OrderedMap.get?, Pairs.get?_eq_none.mpr hs]
    exact wellKnown?_eq_some.mpr hw

theorem sourceOf?_eq_some (hm : Manifest.Checked m) : sourceOf? m name = some module ↔ Resolves m name module :=
  ⟨resolves_of_sourceOf?, sourceOf?_of_resolves hm⟩

theorem sourceOf?_eq_none (hm : Manifest.Checked m) :
    sourceOf? m name = none ↔ ∀ module, ¬Resolves m name module := by
  rw [Option.eq_none_iff_forall_ne_some]
  exact forall_congr' fun module => not_congr (sourceOf?_eq_some hm)

theorem Resolves.unique (hm : Manifest.Checked m) {other : String} (h : Resolves m name module)
    (h' : Resolves m name other) : module = other := by
  have he := sourceOf?_of_resolves hm h
  rw [sourceOf?_of_resolves hm h'] at he
  exact (Option.some.inj he).symm

end AngularScaffold.Angular
