import AngularScaffold.Angular.Resolution
import AngularScaffold.Proofs.Manifest.Violations

namespace AngularScaffold.Manifest

structure Adds (m : Manifest) (d : Declaration) (m' : Manifest) : Prop where
  project : m'.project = m.project
  symbols : m'.symbols = m.symbols
  others : ∀ kind, kind ≠ d.kind → m'.classesOf kind = m.classesOf kind
  placed : ∃ before after, (m.classesOf d.kind).entries = before ++ after ∧
    (m'.classesOf d.kind).entries = before ++ (d.name, d.config) :: after
  application : m'.application = m.application
  routes : m'.routes = m.routes

namespace Adds

variable {m m' : Manifest} {d : Declaration}

theorem declared (h : Adds m d m') : ∃ before after,
    Manifest.declared d.kind (m.classesOf d.kind) = before ++ after ∧
      Manifest.declared d.kind (m'.classesOf d.kind) = before ++ d :: after := by
  obtain ⟨before, after, hm, hm'⟩ := h.placed
  refine ⟨before.map fun e => ⟨d.kind, e.1, e.2⟩, after.map fun e => ⟨d.kind, e.1, e.2⟩, ?_, ?_⟩
  · rw [Manifest.declared, hm, List.map_append]
  · rw [Manifest.declared, hm', List.map_append, List.map_cons]

theorem classes (h : Adds m d m') :
    ∃ before after, m.classes = before ++ after ∧ m'.classes = before ++ d :: after := by
  obtain ⟨before, after, hm, hm'⟩ := h.declared
  have hothers := h.others
  have hall (m : Manifest) : m.classes = Manifest.declared .component (m.classesOf .component) ++
      Manifest.declared .directive (m.classesOf .directive) ++ Manifest.declared .module (m.classesOf .module) := rfl
  rw [hall m, hall m']
  generalize d.kind = kind at hm hm' hothers
  cases kind with
  | component =>
    rw [hothers .directive (by decide), hothers .module (by decide), hm, hm']
    exact ⟨before, after ++ Manifest.declared .directive (m.classesOf .directive) ++
      Manifest.declared .module (m.classesOf .module), by simp, by simp⟩
  | directive =>
    rw [hothers .component (by decide), hothers .module (by decide), hm, hm']
    exact ⟨Manifest.declared .component (m.classesOf .component) ++ before,
      after ++ Manifest.declared .module (m.classesOf .module), by simp, by simp⟩
  | module =>
    rw [hothers .component (by decide), hothers .directive (by decide), hm, hm']
    exact ⟨Manifest.declared .component (m.classesOf .component) ++
      Manifest.declared .directive (m.classesOf .directive) ++ before, after, by simp, by simp⟩

theorem checked (h : Adds m d m') (hm' : Checked m') : Checked m := by
  obtain ⟨before, after, hclasses, hclasses'⟩ := h.classes
  have hsub : m.classes.Sublist m'.classes := by
    rw [hclasses, hclasses']
    exact (List.Sublist.refl before).append (List.sublist_cons_self d after)
  exact {
    named := h.project ▸ hm'.named
    classNames := fun c hc => hm'.classNames c (hsub.subset hc)
    apart := hm'.apart.sublist hsub
    symbolNames := h.symbols ▸ hm'.symbolNames
    routeNames := h.routes ▸ hm'.routeNames }

theorem sourceOf?_eq (h : Adds m d m') {name : String} (hne : name ≠ d.name) :
    Angular.sourceOf? m' name = Angular.sourceOf? m name := by
  obtain ⟨before, after, hclasses, hclasses'⟩ := h.classes
  have hd : (d.name == name) = false := by simpa using hne.symm
  have hfind : m'.classes.find? (·.name == name) = m.classes.find? (·.name == name) := by
    rw [hclasses, hclasses', List.find?_append, List.find?_append, List.find?_cons, hd]
  rw [Angular.sourceOf?, Angular.sourceOf?, hfind, h.routes, h.symbols]

end Adds

end AngularScaffold.Manifest
