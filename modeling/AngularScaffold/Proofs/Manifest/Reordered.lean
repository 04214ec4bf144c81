import AngularScaffold.Angular.Resolution
import AngularScaffold.Proofs.Manifest.Violations
import AngularScaffold.Proofs.TypeScript.ImportTable

namespace AngularScaffold

namespace Manifest

/-- The same declarations, those of a section in any order. Configurations and routes keep theirs. -/
structure Reordered (m m' : Manifest) : Prop where
  project : m'.project = m.project
  symbols : m.symbols.entries.Perm m'.symbols.entries
  sections : ∀ kind, (m.classesOf kind).entries.Perm (m'.classesOf kind).entries
  application : m'.application = m.application
  routes : m'.routes = m.routes

namespace Reordered

variable {m m' : Manifest}

theorem symm (h : Reordered m m') : Reordered m' m where
  project := h.project.symm
  symbols := h.symbols.symm
  sections kind := (h.sections kind).symm
  application := h.application.symm
  routes := h.routes.symm

theorem declared_perm (h : Reordered m m') (kind : ClassKind) :
    (declared kind (m.classesOf kind)).Perm (declared kind (m'.classesOf kind)) :=
  (h.sections kind).map _

theorem classes_perm (h : Reordered m m') : m.classes.Perm m'.classes :=
  ((h.declared_perm .component).append (h.declared_perm .directive)).append (h.declared_perm .module)

theorem checked (h : Reordered m m') (hm : Checked m) : Checked m' where
  named := h.project ▸ hm.named
  classNames d hd := hm.classNames d (h.classes_perm.mem_iff.mpr hd)
  apart := pairwise_apart_iff.mpr
    ⟨(h.classes_perm.map _).nodup_iff.mp hm.nodup_names, (h.classes_perm.map _).nodup_iff.mp hm.nodup_stems⟩
  symbolNames name hname := hm.symbolNames name ((h.symbols.map Prod.fst).mem_iff.mpr hname)
  routeNames r hr := hm.routeNames r (h.routes ▸ hr)

theorem find?_declared (h : Reordered m m') (kind : ClassKind) (name : String) :
    (declared kind (m.classesOf kind)).find? (·.name == name) =
      (declared kind (m'.classesOf kind)).find? (·.name == name) := by
  apply find?_perm (h.declared_perm kind)
  rw [declared, List.map_map]
  exact (m.classesOf kind).distinct

theorem find?_classes (h : Reordered m m') (name : String) :
    m.classes.find? (·.name == name) = m'.classes.find? (·.name == name) := by
  -- a class is found in the first section that has it, and sections stay what they are
  have hc := h.find?_declared .component name
  have hd := h.find?_declared .directive name
  have hs := h.find?_declared .module name
  simp only [classesOf] at hc hd hs
  simp only [classes, List.find?_append, hc, hd, hs]

theorem sourceOf?_eq (h : Reordered m m') (name : String) : Angular.sourceOf? m' name = Angular.sourceOf? m name := by
  have hsymbol : m'.symbols.get? name = m.symbols.get? name :=
    (Pairs.get?_perm h.symbols m.symbols.distinct name).symm
  rw [Angular.sourceOf?, Angular.sourceOf?, h.find?_classes name, h.routes, hsymbol]

end Reordered

end Manifest

end AngularScaffold
