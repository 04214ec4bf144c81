import AngularScaffold.Proofs.Angular.DeclarationOrder
import AngularScaffold.Proofs.Expression.Scan
import AngularScaffold.Proofs.Manifest.Added

namespace AngularScaffold

namespace Expression

open Naming

theorem eq_of_mem_identifiers {text name : String} (ht : Bindable text) (h : name ∈ identifiers text) :
    name = text := by
  obtain ⟨c, cs, hchars, hc, hcs⟩ := ht.spelled
  have hword : word cs = cs := List.takeWhile_eq_self_iff.mpr hcs
  have hafter : afterWord cs = [] := List.dropWhile_eq_nil_iff.mpr hcs
  rw [identifiers, hchars, identifiersFrom_word (inIdentifier_of_starts hc), hword, hafter, identifiersFrom_nil,
    List.append_nil, ← hchars, String.ofList_toList] at h
  split at h
  · exact List.mem_singleton.mp h
  · cases h

end Expression

namespace Angular

open Layout

variable {m m' : Manifest} {d : Declaration}

/-- A name that neither the expressions of a manifest nor its routes use. -/
structure Unmentioned (m : Manifest) (name : String) : Prop where
  classes : ∀ c ∈ m.classes, ∀ e ∈ classExpressions c, name ∉ Expression.identifiers e
  application : ∀ config ∈ m.application, ∀ e ∈ expressions .application config, name ∉ Expression.identifiers e
  routes : ∀ r ∈ m.routes, r.component ≠ name

theorem Unmentioned.notMem (hm : Manifest.Checked m) {name : String} (h : Unmentioned m name) :
    ∀ s ∈ subjects m, ∀ e ∈ s.expressions m, name ∉ Expression.identifiers e := by
  intro s hs e he
  rcases mem_subjects.mp hs with ⟨c, hc, rfl⟩ | ⟨-, rfl⟩ | ⟨config, hconfig, rfl⟩
  · exact h.classes c hc e he
  · obtain ⟨r, hr, rfl⟩ := List.mem_map.mp he
    intro hname
    exact h.routes r hr (Expression.eq_of_mem_identifiers (hm.routeNames r hr) hname).symm
  · exact h.application config hconfig e he

theorem subjects_adds (h : m.Adds d m') :
    ∃ before after, subjects m = before ++ after ∧ subjects m' = before ++ .ofClass d :: after := by
  obtain ⟨before, after, hclasses, hclasses'⟩ := h.classes
  refine ⟨before.map .ofClass, after.map .ofClass ++ (if m.routes = [] then [] else [.routes]) ++
    m.application.toList.map .application, ?_, ?_⟩
  · simp [subjects, hclasses]
  · simp [subjects, hclasses', h.routes, h.application]

theorem FilesOf.adds (h : m.Adds d m') (hm : Manifest.Checked m) (hn : Unmentioned m d.name)
    {unsorted : List SourceFile} (hu : FilesOf m' unsorted) :
    ∃ before file after, unsorted = before ++ file :: after ∧ (Subject.ofClass d).file m' = .ok file ∧
      FilesOf m (before ++ after) := by
  obtain ⟨front, back, hsubjects, hsubjects'⟩ := subjects_adds h
  rw [FilesOf, hsubjects'] at hu
  obtain ⟨before, rest, hbefore, hrest, rfl⟩ := exists_append_of_forall₂ hu
  cases hrest with
  | @cons _ file _ after hfile hafter =>
    have hagrees : ∀ s ∈ front ++ back, s.Agrees m m' := by
      intro s hs e he name hname
      apply h.sourceOf?_eq
      rintro rfl
      exact hn.notMem hm s (hsubjects ▸ hs) e he hname
    refine ⟨before, file, after, rfl, hfile, ?_⟩
    rw [FilesOf, hsubjects]
    exact (files_congr h.routes hagrees).mp (List.rel_append hbefore hafter)

/-- Declaring a class that a manifest does not mention puts its file into the place of its path, and changes neither
the path nor the content of any other file. -/
theorem added_class (h : m.Adds d m') (hn : Unmentioned m d.name) {source : String}
    (hv : Manifest.validate source m' = .ok ()) {i : Indent} {files : List GeneratedFile}
    (hp : preview i m' = .ok files) :
    Manifest.validate source m = .ok () ∧ Text.Ascending (files.map (·.path)) ∧
      ∃ before file after, files = before ++ file :: after ∧ preview i m = .ok (before ++ after) ∧
        file.path = Naming.fileStem d.name d.kind.name ++ ".ts" ∧
        ∃ g, (Subject.ofClass d).file m' = .ok g ∧ file = g.generate i := by
  have hm' := Manifest.validate_eq_ok.mp hv
  have hm := h.checked hm'
  have hascending := ascending_preview hp (nodup_preview hm' hp)
  obtain ⟨unsorted, hu, rfl⟩ := preview_eq_ok hp
  obtain ⟨front, file, back, rfl, hfile, hothers⟩ := hu.adds h hm hn
  have hdistinct := nodup_paths hm'
  rw [← hu.paths] at hdistinct
  obtain ⟨before, after, hall, hrest⟩ := Text.mergeSort_insert hdistinct
  have hpath : file.path = Naming.fileStem d.name d.kind.name ++ ".ts" := by
    rw [Subject.path_file hfile, Subject.path, Subject.stem]
  refine ⟨Manifest.validate_eq_ok.mpr hm, hascending, before.map (·.generate i), file.generate i,
    after.map (·.generate i), ?_, ?_, hpath, file, hfile, rfl⟩
  · rw [hall, List.map_append, List.map_cons]
  · rw [preview_of_files hothers i, hrest, List.map_append]

def buoy : Declaration :=
  ⟨.component, "Buoy", ⟨[("providers", .list [.text "Boat"])], by decide⟩⟩

def harbourWithBuoy : Manifest :=
  { harbour with components := ⟨[("Pier", pier), ("Buoy", buoy.config), ("Boat", .empty)], by decide⟩ }

theorem harbour_adds : harbour.Adds buoy harbourWithBuoy where
  project := rfl
  symbols := rfl
  others kind hkind := by
    cases kind with
    | component => exact absurd rfl hkind
    | directive => rfl
    | module => rfl
  placed := ⟨[("Pier", pier)], [("Boat", .empty)], rfl, rfl⟩
  application := rfl
  routes := rfl

theorem harbour_with_buoy : harbour.Adds buoy harbourWithBuoy ∧ Unmentioned harbour "Buoy" ∧
    Manifest.validate "" harbourWithBuoy = .ok () ∧ ∃ before file after,
      preview .tab harbourWithBuoy = .ok (before ++ file :: after) ∧ preview .tab harbour = .ok (before ++ after) ∧
      file.path = Naming.fileStem "Buoy" "component" ++ ".ts" := by
  have hn : Unmentioned harbour "Buoy" := by
    refine ⟨by decide +kernel, fun config hconfig => ?_, by decide +kernel⟩
    cases hconfig
  have hvalid : (Manifest.validate "" harbourWithBuoy).isOk := by decide +kernel
  obtain ⟨⟨⟩, hv⟩ := isOk_iff.mp hvalid
  obtain ⟨files, hp⟩ := preview_isOk (m := harbourWithBuoy) (by decide +kernel) (by decide +kernel) .tab
  obtain ⟨-, -, before, file, after, rfl, hbefore, hpath, -⟩ := added_class harbour_adds hn hv hp
  exact ⟨harbour_adds, hn, hv, before, file, after, hp, hbefore, hpath⟩

end Angular

end AngularScaffold
