import AngularScaffold.Proofs.Angular.Subjects

namespace AngularScaffold.Angular

variable {m m' : Manifest}

theorem importsFor_congr {e : String} (h : ∀ name ∈ Expression.identifiers e, sourceOf? m' name = sourceOf? m name)
    (binding : String) : importsFor m' binding e = importsFor m binding e := by
  apply List.filterMap_congr
  intro name hname
  rw [h name (List.mem_of_mem_filter hname)]

namespace Subject

def Agrees (m m' : Manifest) (s : Subject) : Prop :=
  ∀ e ∈ s.expressions m, ∀ name ∈ Expression.identifiers e, sourceOf? m' name = sourceOf? m name

theorem importsForAll_congr {s : Subject} (h : s.Agrees m m') (binding : String) :
    importsForAll m' binding (s.expressions m) = importsForAll m binding (s.expressions m) := by
  apply List.flatMap_congr
  intro e he
  exact importsFor_congr (h e he) binding

theorem file_congr {s : Subject} (hroutes : m'.routes = m.routes) (h : s.Agrees m m') : s.file m' = s.file m := by
  cases s with
  | ofClass d =>
    have huses := importsForAll_congr h d.name
    simp only [expressions] at huses
    simp only [file, classFile, huses]
  | routes =>
    have huses := importsForAll_congr h routesName
    have hsame : routeExpressions m' = routeExpressions m := by rw [routeExpressions, routeExpressions, hroutes]
    simp only [expressions] at huses
    simp only [file, routesFile, hsame, huses, hroutes]
  | application config =>
    have huses := importsForAll_congr h configName
    simp only [expressions] at huses
    simp only [file, configFile, huses]

end Subject

theorem files_congr (hroutes : m'.routes = m.routes) {ss : List Subject} (h : ∀ s ∈ ss, s.Agrees m m')
    {files : List SourceFile} : List.Forall₂ (fun s f => s.file m' = .ok f) ss files ↔
      List.Forall₂ (fun s f => s.file m = .ok f) ss files := by
  have hsame : ss.map (Subject.file m') = ss.map (Subject.file m) :=
    List.map_congr_left fun s hs => Subject.file_congr hroutes (h s hs)
  have hmap (m : Manifest) : List.Forall₂ (fun s f => Subject.file m s = .ok f) ss files ↔
      List.Forall₂ (fun x f => x = .ok f) (ss.map (Subject.file m)) files := by
    rw [List.forall₂_map_left_iff]
  rw [hmap, hmap, hsame]

theorem classFiles_of_files {ds : List Declaration} {files : List SourceFile}
    (h : List.Forall₂ (fun s f => Subject.file m s = .ok f) (ds.map .ofClass) files) :
    classFiles m ds = .ok files := by
  induction ds generalizing files with
  | nil =>
    cases h
    rfl
  | cons d rest ih =>
    cases h with
    | cons hfile hrest =>
      rw [classFiles, bind_eq_ok]
      refine ⟨_, mapError_eq_ok.mpr hfile, ?_⟩
      rw [ih hrest]
      rfl

theorem configFiles_of_files {files : List SourceFile} (h : List.Forall₂ (fun s f => Subject.file m s = .ok f)
    (m.application.toList.map .application) files) : configFiles m = .ok files := by
  unfold configFiles
  cases hm : m.application with
  | none =>
    rw [hm] at h
    cases h
    rfl
  | some config =>
    rw [hm] at h
    cases h with
    | cons hfile hrest =>
      cases hrest
      exact bind_eq_ok.mpr ⟨_, mapError_eq_ok.mpr hfile, rfl⟩

theorem exists_append_of_forall₂ {α β : Type} {R : α → β → Prop} {xs ys : List α} {zs : List β}
    (h : List.Forall₂ R (xs ++ ys) zs) :
    ∃ front back, List.Forall₂ R xs front ∧ List.Forall₂ R ys back ∧ zs = front ++ back :=
  ⟨_, _, (List.forall₂_take_append _ _ _ h.flip).flip, (List.forall₂_drop_append _ _ _ h.flip).flip,
    (List.take_append_drop _ _).symm⟩

theorem preview_of_files {unsorted : List SourceFile} (h : FilesOf m unsorted) (i : Layout.Indent) : preview i m =
    .ok ((unsorted.mergeSort fun a b => Text.noLater a.path b.path).map (·.generate i)) := by
  obtain ⟨front, config, hfront, hconfig, rfl⟩ := exists_append_of_forall₂ h
  obtain ⟨classes, routes, hclasses, hroutes, rfl⟩ := exists_append_of_forall₂ hfront
  have hunique : Relator.RightUnique fun s f => Subject.file m s = .ok f :=
    fun s f g hf hg => Except.ok.inj (hf.symm.trans hg)
  have hsame : routes = routesFiles m := hunique.forall₂ hroutes (routesFiles_subjects m)
  rw [hsame]
  exact map_eq_ok.mpr ⟨_, sourceFiles_eq (classFiles_of_files hclasses) (configFiles_of_files hconfig), rfl⟩

end AngularScaffold.Angular
