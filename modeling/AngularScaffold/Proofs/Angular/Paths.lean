import AngularScaffold.Proofs.Angular.Subjects
import AngularScaffold.Proofs.Naming.StemCharacters

namespace AngularScaffold.Angular

open Layout

structure IsEntryName (path : String) : Prop where
  nonempty : path ≠ ""
  flat : '/' ∉ path.toList
  notStay : path ≠ "."
  notParent : path ≠ ".."

theorem stem_ne {d : Declaration} {stem : String} {c : Char} (h : stem.toList.getLast? = some c)
    (ht : c ≠ 't') (he : c ≠ 'e') : d.stem ≠ stem := by
  rintro rfl
  rcases d.getLast?_stem with hl | hl
  · exact ht (Option.some.inj (h.symm.trans hl))
  · exact he (Option.some.inj (h.symm.trans hl))

theorem stem_ne_routes (d : Declaration) : d.stem ≠ "app.routes" :=
  stem_ne (c := 's') (by simp) (by decide) (by decide)

theorem stem_ne_config (d : Declaration) : d.stem ≠ "app.config" :=
  stem_ne (c := 'g') (by simp) (by decide) (by decide)

namespace Subject

variable {m : Manifest}

theorem path_injective {s t : Subject} (h : s.path = t.path) : s.stem = t.stem := by
  have hl := congrArg String.toList h
  simp only [path, String.toList_append] at hl
  exact String.toList_inj.mp (List.append_cancel_right hl)

theorem path_routes : routes.path = "app.routes.ts" := by
  simp [path, stem]

theorem path_application (config : Config) : (application config).path = "app.config.ts" := by
  simp [path, stem]

theorem path_ne_routes (d : Declaration) : (ofClass d).path ≠ "app.routes.ts" := by
  intro h
  have hstem := path_injective (h.trans path_routes.symm)
  exact stem_ne_routes d hstem

theorem path_ne_config (d : Declaration) : (ofClass d).path ≠ "app.config.ts" := by
  intro h
  have hstem := path_injective (h.trans (path_application .empty).symm)
  exact stem_ne_config d hstem

theorem slash_notMem_stem (hm : Manifest.Checked m) {s : Subject} (hs : s ∈ subjects m) :
    '/' ∉ s.stem.toList := by
  rcases mem_subjects.mp hs with ⟨d, hd, rfl⟩ | ⟨-, rfl⟩ | ⟨config, -, rfl⟩
  · refine Naming.slash_notMem_fileStem ?_ d.kind.slash_notMem_name
    intro hslash
    have h := (hm.classNames d hd).inIdentifier hslash
    rw [Naming.slash_notInIdentifier] at h
    cases h
  · simp [stem]
  · simp [stem]

theorem isEntryName_path (hm : Manifest.Checked m) {s : Subject} (hs : s ∈ subjects m) : IsEntryName s.path := by
  have hlist : s.path.toList = s.stem.toList ++ ['.', 't', 's'] := by simp [path]
  have hlen : s.path.toList.length = s.stem.toList.length + 3 := by
    rw [hlist, List.length_append]
    rfl
  have hlong {text : String} (ht : text.toList.length < 3) : s.path ≠ text := by
    rintro rfl
    omega
  refine ⟨hlong (by simp), ?_, hlong (by simp), hlong (by simp)⟩
  rw [hlist, List.mem_append]
  rintro (h | h)
  · exact slash_notMem_stem hm hs h
  · simp at h

end Subject

theorem nodup_stems {m : Manifest} (hm : Manifest.Checked m) : ((subjects m).map Subject.stem).Nodup := by
  have hclasses : (m.classes.map Subject.ofClass).map Subject.stem = m.classes.map (·.stem) := by
    rw [List.map_map]
    rfl
  have hconfig : (m.application.toList.map Subject.application).map Subject.stem =
      if m.application.isSome then ["app.config"] else [] := by
    cases m.application <;> rfl
  have hroutes : (if m.routes = [] then [] else [Subject.routes]).map Subject.stem =
      if m.routes = [] then [] else ["app.routes"] := by
    split <;> rfl
  simp only [subjects, List.map_append, hclasses, hconfig, hroutes, List.append_assoc]
  refine List.nodup_append.mpr ⟨hm.nodup_stems, ?_, ?_⟩
  · split <;> split <;> decide
  · intro stem hs other ho
    obtain ⟨d, -, rfl⟩ := List.mem_map.mp hs
    rcases List.mem_append.mp ho with ho | ho
    · split at ho
      · simp at ho
      · exact List.mem_singleton.mp ho ▸ stem_ne_routes d
    · split at ho
      · exact List.mem_singleton.mp ho ▸ stem_ne_config d
      · simp at ho

theorem nodup_paths {m : Manifest} (hm : Manifest.Checked m) : ((subjects m).map Subject.path).Nodup := by
  have h := List.pairwise_map.mp (nodup_stems hm)
  apply List.pairwise_map.mpr
  exact h.imp fun hne he => hne (Subject.path_injective he)

theorem paths_perm {i : Indent} {m : Manifest} {files : List GeneratedFile} (hp : preview i m = .ok files) :
    (files.map (·.path)).Perm ((subjects m).map Subject.path) := by
  obtain ⟨unsorted, hu, rfl⟩ := preview_eq_ok hp
  rw [List.map_map, ← hu.paths]
  exact (List.mergeSort_perm _ _).map _

theorem nodup_preview {i : Indent} {m : Manifest} {files : List GeneratedFile} (hm : Manifest.Checked m)
    (hp : preview i m = .ok files) : (files.map (·.path)).Nodup :=
  (paths_perm hp).nodup_iff.mpr (nodup_paths hm)

theorem ascending_preview {i : Indent} {m : Manifest} {files : List GeneratedFile} (hp : preview i m = .ok files)
    (hn : (files.map (·.path)).Nodup) : Text.Ascending (files.map (·.path)) := by
  obtain ⟨unsorted, -, rfl⟩ := preview_eq_ok hp
  rw [List.map_map] at hn ⊢
  have hperm := List.mergeSort_perm unsorted fun a b => Text.noLater a.path b.path
  exact Text.ascending_mergeSort ((hperm.map _).nodup_iff.mp hn)

theorem paths_subjects (m : Manifest) : (subjects m).map Subject.path =
    m.classes.map (fun d => Naming.fileStem d.name d.kind.name ++ ".ts") ++
      (if m.routes = [] then [] else ["app.routes.ts"]) ++
      (if m.application.isSome then ["app.config.ts"] else []) := by
  simp only [subjects, List.map_append, List.map_map]
  congr 1
  · congr 1
    split <;> rfl
  · cases m.application <;> rfl

theorem mem_paths_routes {m : Manifest} : "app.routes.ts" ∈ (subjects m).map Subject.path ↔ m.routes ≠ [] := by
  constructor
  · intro h
    obtain ⟨s, hs, hpath⟩ := List.mem_map.mp h
    rcases mem_subjects.mp hs with ⟨d, -, rfl⟩ | ⟨hroutes, -⟩ | ⟨config, -, rfl⟩
    · exact absurd hpath (Subject.path_ne_routes d)
    · exact hroutes
    · rw [Subject.path_application] at hpath
      exact absurd hpath (by decide)
  · exact fun h => List.mem_map.mpr ⟨.routes, mem_subjects.mpr (.inr (.inl ⟨h, rfl⟩)), Subject.path_routes⟩

theorem mem_paths_config {m : Manifest} :
    "app.config.ts" ∈ (subjects m).map Subject.path ↔ m.application.isSome := by
  constructor
  · intro h
    obtain ⟨s, hs, hpath⟩ := List.mem_map.mp h
    rcases mem_subjects.mp hs with ⟨d, -, rfl⟩ | ⟨-, rfl⟩ | ⟨config, hconfig, -⟩
    · exact absurd hpath (Subject.path_ne_config d)
    · rw [Subject.path_routes] at hpath
      exact absurd hpath (by decide)
    · rw [hconfig]
      rfl
  · intro h
    obtain ⟨config, hconfig⟩ := Option.isSome_iff_exists.mp h
    have hs : Subject.application config ∈ subjects m := mem_subjects.mpr (.inr (.inr ⟨config, hconfig, rfl⟩))
    exact List.mem_map.mpr ⟨_, hs, Subject.path_application config⟩

/-- One file for each class, one for the routes if there are any and one for the application if it is
configured, in strictly ascending order. -/
theorem preview_paths {fileName source : String} {m : Manifest} (hr : Manifest.read fileName source = .ok m)
    {i : Indent} {files : List GeneratedFile} (hp : preview i m = .ok files) :
    Text.Ascending (files.map (·.path)) ∧ (files.map (·.path)).Nodup ∧
      (files.map (·.path)).Perm
        (m.classes.map (fun d => Naming.fileStem d.name d.kind.name ++ ".ts") ++
          (if m.routes = [] then [] else ["app.routes.ts"]) ++
          (if m.application.isSome then ["app.config.ts"] else [])) ∧
      ("app.routes.ts" ∈ files.map (·.path) ↔ m.routes ≠ []) ∧
      ("app.config.ts" ∈ files.map (·.path) ↔ m.application.isSome) ∧
      (∀ d ∈ m.classes, Naming.fileStem d.name d.kind.name ++ ".ts" ≠ "app.routes.ts" ∧
        Naming.fileStem d.name d.kind.name ++ ".ts" ≠ "app.config.ts") ∧
      ∀ f ∈ files, IsEntryName f.path := by
  have hm := Manifest.checked_of_read hr
  obtain ⟨unsorted, hu, hfiles⟩ := preview_eq_ok hp
  have hpaths : files.map (·.path) =
      (unsorted.mergeSort fun a b => Text.noLater a.path b.path).map SourceFile.path := by
    rw [hfiles, List.map_map]
    rfl
  have hperm : (files.map (·.path)).Perm ((subjects m).map Subject.path) := by
    rw [hpaths, ← hu.paths]
    exact (List.mergeSort_perm _ _).map _
  have hascending : Text.Ascending (files.map (·.path)) := by
    rw [hpaths]
    exact Text.ascending_mergeSort (hu.paths ▸ nodup_paths hm)
  refine ⟨hascending, hascending.nodup, paths_subjects m ▸ hperm, ?routes, ?config, ?classes, ?entries⟩
  case routes => exact hperm.mem_iff.trans mem_paths_routes
  case config => exact hperm.mem_iff.trans mem_paths_config
  case classes => exact fun d _ => ⟨Subject.path_ne_routes d, Subject.path_ne_config d⟩
  case entries =>
    intro f hf
    obtain ⟨s, hs, g, hg, rfl⟩ := (mem_preview hp).mp hf
    have hpath : (g.generate i).path = s.path := Subject.path_file hg
    rw [hpath]
    exact Subject.isEntryName_path hm hs

theorem shop_paths : ∃ m files, Manifest.read "shop.toml" shop = .ok m ∧ preview .tab m = .ok files ∧
    Text.Ascending (files.map (·.path)) ∧
    (files.map (·.path)).Perm ["home.component.ts", "shop.module.ts", "app.routes.ts", "app.config.ts"] ∧
    ∀ f ∈ files, IsEntryName f.path := by
  obtain ⟨m, hr, hp, hs, -⟩ := shop_subjects
  obtain ⟨files, hfiles⟩ := hp .tab
  obtain ⟨ha, -, hperm, -, -, -, he⟩ := preview_paths hr hfiles
  have hpaths : (subjects m).map Subject.path = shopFiles.map (·.1) := by
    rw [← hs, List.map_map]
    rfl
  rw [← paths_subjects, hpaths] at hperm
  exact ⟨m, files, hr, hfiles, ha, hperm, he⟩

end AngularScaffold.Angular
