import AngularScaffold.Proofs.Angular.Agreement
import AngularScaffold.Proofs.Angular.Paths
import AngularScaffold.Proofs.Manifest.Reordered
import Mathlib.Data.List.Perm.Basic

namespace AngularScaffold.Angular

open Layout

variable {m m' : Manifest}

theorem subjects_perm (h : m.Reordered m') : (subjects m').Perm (subjects m) := by
  rw [subjects, subjects, h.routes, h.application]
  exact ((h.classes_perm.symm.map Subject.ofClass).append_right _).append_right _

theorem FilesOf.reordered (h : m.Reordered m') {unsorted : List SourceFile} (hu : FilesOf m unsorted) :
    ∃ unsorted', FilesOf m' unsorted' ∧ unsorted'.Perm unsorted := by
  obtain ⟨unsorted', hu', hperm⟩ := List.perm_comp_forall₂ (subjects_perm h) hu
  have hagrees : ∀ s ∈ subjects m', s.Agrees m m' := fun _ _ _ _ name _ => h.sourceOf?_eq name
  exact ⟨unsorted', (files_congr h.routes hagrees).mpr hu', hperm⟩

theorem preview_reordered (h : m.Reordered m') {i : Indent} {files : List GeneratedFile}
    (hp : preview i m = .ok files) : ∃ files', preview i m' = .ok files' ∧ files'.Perm files := by
  obtain ⟨unsorted, hu, rfl⟩ := preview_eq_ok hp
  obtain ⟨unsorted', hu', hperm⟩ := hu.reordered h
  have hsorted : (unsorted'.mergeSort fun a b => Text.noLater a.path b.path).Perm
      (unsorted.mergeSort fun a b => Text.noLater a.path b.path) :=
    (List.mergeSort_perm _ _).trans (hperm.trans (List.mergeSort_perm _ _).symm)
  exact ⟨_, preview_of_files hu' i, hsorted.map _⟩

theorem eq_of_perm {i : Indent} {files files' : List GeneratedFile} (hp : preview i m = .ok files)
    (hp' : preview i m' = .ok files') (hperm : files'.Perm files) (hn : (files.map (·.path)).Nodup) :
    files' = files := by
  -- distinct paths leave one order only
  have hn' : (files'.map (·.path)).Nodup := (hperm.map _).nodup_iff.mpr hn
  exact Text.eq_of_ascending (ascending_preview hp' hn') (ascending_preview hp hn) hperm

/-- Manifests that declare the same things in another order pass together and can be previewed together. They then
have the same files, and the same list of files unless two files share a path, which no manifest that passes has. -/
theorem declaration_order (h : m.Reordered m') :
    (∀ source source', Manifest.validate source m = .ok () ↔ Manifest.validate source' m' = .ok ()) ∧
    ∀ i, ((∃ files, preview i m = .ok files) ↔ ∃ files, preview i m' = .ok files) ∧
      ∀ files files', preview i m = .ok files → preview i m' = .ok files' → files'.Perm files ∧
        ((files.map (·.path)).Nodup → files' = files) ∧
        ∀ source, Manifest.validate source m = .ok () → files' = files := by
  refine ⟨fun source source' => ?_, fun i => ⟨⟨?_, ?_⟩, ?_⟩⟩
  · rw [Manifest.validate_eq_ok, Manifest.validate_eq_ok]
    exact ⟨h.checked, h.symm.checked⟩
  · rintro ⟨files, hp⟩
    obtain ⟨files', hp', -⟩ := preview_reordered h hp
    exact ⟨files', hp'⟩
  · rintro ⟨files', hp'⟩
    obtain ⟨files, hp, -⟩ := preview_reordered h.symm hp'
    exact ⟨files, hp⟩
  · intro files files' hp hp'
    obtain ⟨others, hothers, hperm⟩ := preview_reordered h hp
    obtain rfl : files' = others := Except.ok.inj (hp'.symm.trans hothers)
    refine ⟨hperm, eq_of_perm hp hp' hperm, fun source hv => ?_⟩
    exact eq_of_perm hp hp' hperm (nodup_preview (Manifest.validate_eq_ok.mp hv) hp)

def pier : Config :=
  ⟨[("providers", .list [.text "Tide", .text "Wind", .text "Boat"])], by decide⟩

def harbour : Manifest where
  project := ⟨"harbour", none⟩
  symbols := ⟨[("Tide", "./sea"), ("Wind", "./air")], by decide⟩
  components := ⟨[("Pier", pier), ("Boat", .empty)], by decide⟩
  directives := .empty
  modules := .empty
  application := none
  routes := [⟨"", "Pier"⟩, ⟨"sea", "Boat"⟩]

def harbourTurned : Manifest :=
  { harbour with
    symbols := ⟨[("Wind", "./air"), ("Tide", "./sea")], by decide⟩
    components := ⟨[("Boat", .empty), ("Pier", pier)], by decide⟩ }

theorem harbour_checked : Manifest.Checked harbour := by
  have h : (Manifest.validate "" harbour).isOk := by decide +kernel
  obtain ⟨⟨⟩, hv⟩ := isOk_iff.mp h
  exact Manifest.validate_eq_ok.mp hv

theorem harbour_previewed (i : Indent) : ∃ files, preview i harbour = .ok files :=
  preview_isOk (by decide +kernel) (by decide +kernel) i

theorem harbour_reordered : harbour.Reordered harbourTurned where
  project := rfl
  symbols := .swap _ _ _
  sections kind := by
    cases kind with
    | component => exact .swap _ _ _
    | directive => exact .refl _
    | module => exact .refl _
  application := rfl
  routes := rfl

theorem harbour_order : harbour.Reordered harbourTurned ∧ harbourTurned.classes.map (·.name) = ["Boat", "Pier"] ∧
    Manifest.validate "" harbourTurned = .ok () ∧
    ∃ files, preview .tab harbour = .ok files ∧ preview .tab harbourTurned = .ok files := by
  obtain ⟨hvalid, hpreview⟩ := declaration_order harbour_reordered
  have hv : Manifest.validate "" harbour = .ok () := Manifest.validate_eq_ok.mpr harbour_checked
  obtain ⟨files, hp⟩ := harbour_previewed .tab
  obtain ⟨files', hp'⟩ := (hpreview .tab).1.mp ⟨files, hp⟩
  have hsame := ((hpreview .tab).2 files files' hp hp').2.2 "" hv
  exact ⟨harbour_reordered, rfl, (hvalid "" "").mp hv, files, hp, hsame ▸ hp'⟩

end AngularScaffold.Angular
