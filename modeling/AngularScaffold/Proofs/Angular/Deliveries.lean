import AngularScaffold.Proofs.Angular.SavedFiles
import Mathlib.Logic.Relation

/-!
Delivering the files of a manifest. Main statements: a delivery that goes well changes the files it lists and no
others, and repeating it changes nothing; a delivery that fails has delivered the files before the one that
cannot be written; and no run that keeps files ever changes one that exists.
-/

namespace AngularScaffold.Angular

open Files Layout

variable {fileName source directory : String} {m : Manifest} {i : Indent} {mode : Overwrite}
  {files : List GeneratedFile} {t t' : FileTree} {d : Delivery}

theorem isEntryName_of_mem_preview (hm : Manifest.Checked m) (hp : preview i m = .ok files) :
    ∀ f ∈ files, IsEntryName f.path := by
  intro f hf
  obtain ⟨s, hs, g, hg, rfl⟩ := (mem_preview hp).mp hf
  have hpath : (g.generate i).path = s.path := Subject.path_file hg
  rw [hpath]
  exact Subject.isEntryName_path hm hs

theorem deliver_eq {M : Type → Type} [Monad M] (disk : Disk M) (hp : preview i m = .ok files) :
    deliver disk mode directory i m = saveAll disk mode directory files := by
  rw [deliver, hp]

/-- What it means that files have been delivered: each is written or skipped, as the file system was before, and
every other place holds the content that it held. -/
structure Delivered (mode : Overwrite) (directory : String) (t : FileTree) (files : List GeneratedFile)
    (d : Delivery) (t' : FileTree) : Prop where
  written : d.written.Sublist (files.map (·.path))
  skipped : d.skipped.Sublist (files.map (·.path))
  once : ∀ f ∈ files, Xor (f.path ∈ d.written) (f.path ∈ d.skipped)
  skipped_iff : ∀ f ∈ files,
    f.path ∈ d.skipped ↔ mode = .ifMissing ∧ t.contains (join directory f.path) = true
  contents : ∀ f ∈ files, f.path ∈ d.written → t'.read? (join directory f.path) = some f.content.toUTF8
  kept : ∀ f ∈ files, f.path ∈ d.skipped → t'.read? (join directory f.path) = t.read? (join directory f.path)
  others : ∀ place, (∀ path ∈ d.written, place ≠ t.placeOf (join directory path)) →
    t'.content? place = t.content? place

theorem Outcome.delivered (h : Outcome mode directory t files d t') (hd : Descends directory) (ht : t.Sound)
    (hnames : ∀ f ∈ files, IsEntryName f.path) : Delivered mode directory t files d t' := by
  have hwritten : ∀ f ∈ files, f.path ∈ d.written ↔ isKept mode t (join directory f.path) = false := by
    intro f hf
    rw [h.mem_written, and_iff_right (List.mem_map_of_mem hf)]
  have hskipped : ∀ f ∈ files, f.path ∈ d.skipped ↔ isKept mode t (join directory f.path) = true := by
    intro f hf
    rw [h.mem_skipped, and_iff_right (List.mem_map_of_mem hf)]
  constructor
  case written =>
    rw [h.written]
    exact List.filter_sublist.map _
  case skipped =>
    rw [h.skipped]
    exact List.filter_sublist.map _
  case once =>
    intro f hf
    rw [hwritten f hf, hskipped f hf]
    cases isKept mode t (join directory f.path) <;> simp [Xor]
  case skipped_iff =>
    intro f hf
    rw [hskipped f hf, isKept_iff]
  case contents =>
    intro f hf hmem
    exact h.contents f hf ((hwritten f hf).mp hmem)
  case kept =>
    intro f hf hmem
    have hother : f.path ∉ d.written := by simp [hwritten f hf, (hskipped f hf).mp hmem]
    rw [FileTree.read?, FileTree.read?, h.lookup?_eq hd ht (hnames f hf) hother]
  case others =>
    intro place hplace
    apply h.frame.content?
    intro hmem
    obtain ⟨path, hpath, rfl⟩ := List.mem_map.mp hmem
    obtain ⟨f, hf, rfl⟩ := List.mem_map.mp (h.mem_written.mp hpath).1
    exact hplace f.path hpath (placeOf_entry (hnames f hf) t directory).symm

def diary : String :=
  "project.name = \"diary\"
components.Entry.selector = \"diary-entry\"
components.Page.encapsulation = 2
"

def desk : FileTree :=
  .ofFiles ["work"] [("out/entry.component.ts", "by hand".toUTF8), ("old/page.component.ts/draft", "to do".toUTF8)]

theorem diary_runs : ∃ m files, Manifest.read "diary.toml" diary = .ok m ∧ preview .tab m = .ok files ∧
    (∃ t', (deliver FileTree.disk .ifMissing "out" .tab m).run desk =
      (.ok ⟨["page.component.ts"], ["entry.component.ts"]⟩, t')) ∧
    ∃ t', (deliver FileTree.disk .always "old" .tab m).run desk =
      (.error (.unwritable "old/page.component.ts"), t') := by
  have h : ∃ m, Manifest.read "diary.toml" diary = .ok m ∧ ∃ classes, classFiles m m.classes = .ok classes ∧
      ∃ config, configFiles m = .ok config ∧
        let sources := classes ++ routesFiles m ++ config
        let files := sources.map (·.generate .tab)
        (sources.Pairwise fun a b => Text.noLater a.path b.path = true) ∧
          ((saveAll FileTree.disk .ifMissing "out" files).run desk).1 =
            .ok ⟨["page.component.ts"], ["entry.component.ts"]⟩ ∧
          ((saveAll FileTree.disk .always "old" files).run desk).1 = .error (.unwritable "old/page.component.ts") := by
    decide +kernel
  obtain ⟨m, hr, classes, hc, config, hg, hsorted, hout, hold⟩ := h
  have hp := preview_of_sorted hc hg hsorted .tab
  refine ⟨m, _, hr, hp, ?_⟩
  rw [deliver_eq _ hp, deliver_eq _ hp]
  exact ⟨⟨_, Prod.ext hout rfl⟩, ⟨_, Prod.ext hold rfl⟩⟩

/-- A delivery that goes well does to each file what the mode asks for, and when it is repeated it finds every file
and writes none. -/
theorem delivery_complete (hr : Manifest.read fileName source = .ok m) (hp : preview i m = .ok files)
    (hd : Descends directory) (ht : t.Sound)
    (h : (deliver FileTree.disk mode directory i m).run t = (.ok d, t')) :
    Delivered mode directory t files d t' ∧
      (deliver FileTree.disk .ifMissing directory i m).run t' = (.ok ⟨[], files.map (·.path)⟩, t') := by
  have hm := Manifest.checked_of_read hr
  have hnames := isEntryName_of_mem_preview hm hp
  rw [deliver_eq _ hp] at h ⊢
  have houtcome := (saveAll_eq_ok h).outcome hd ht hnames (nodup_preview hm hp)
  have hagain := savedAll_of_kept (houtcome.isKept_after hd ht hnames)
  exact ⟨houtcome.delivered hd ht hnames, hagain.run_eq⟩

theorem diary_delivered : ∃ m files t', Manifest.read "diary.toml" diary = .ok m ∧ preview .tab m = .ok files ∧
    Descends "out" ∧ desk.Sound ∧
    (deliver FileTree.disk .ifMissing "out" .tab m).run desk =
      (.ok ⟨["page.component.ts"], ["entry.component.ts"]⟩, t') ∧
    Delivered .ifMissing "out" desk files ⟨["page.component.ts"], ["entry.component.ts"]⟩ t' ∧
    (deliver FileTree.disk .ifMissing "out" .tab m).run t' = (.ok ⟨[], files.map (·.path)⟩, t') := by
  obtain ⟨m, files, hr, hp, ⟨t', hrun⟩, -⟩ := diary_runs
  have hd : Descends "out" := by decide +kernel
  have hdesk : desk.Sound := FileTree.sound_ofFiles (by decide +kernel) _
  obtain ⟨hdelivered, hagain⟩ := delivery_complete hr hp hd hdesk hrun
  exact ⟨m, files, t', hr, hp, hd, hdesk, hrun, hdelivered, hagain⟩

/-- What it means that a run stops at a file: those in front of it have been delivered, it could not be saved where
they had led, and neither it nor a later one has changed what stood in its place. -/
structure Stopped (mode : Overwrite) (directory : String) (t : FileTree) (front : List GeneratedFile)
    (f : GeneratedFile) (back : List GeneratedFile) (d : Delivery) (t' : FileTree) : Prop where
  failed : ∃ made, (saveAll FileTree.disk mode directory front).run t = (.ok d, made) ∧
    (FileTree.disk.save mode (join directory f.path) f.content).run made = (.failed, t')
  delivered : Delivered mode directory t front d t'
  unsaved : ∀ g ∈ f :: back, g.path ∉ d.written ∧
    t'.content? (t.placeOf (join directory g.path)) = t.content? (t.placeOf (join directory g.path))

theorem SavedAll.stopped {front back : List GeneratedFile} {f : GeneratedFile} {made : FileTree}
    (h : SavedAll mode directory t front d made) (hd : Descends directory) (ht : t.Sound)
    (hnames : ∀ g ∈ front ++ f :: back, IsEntryName g.path) (hdistinct : ((front ++ f :: back).map (·.path)).Nodup)
    (hfailed : (FileTree.disk.save mode (join directory f.path) f.content).run made = (.failed, t')) :
    Stopped mode directory t front f back d t' := by
  have hfront : ∀ g ∈ front, IsEntryName g.path := fun g hg => hnames g (List.mem_append_left _ hg)
  have houtcome := h.outcome_of_failed hd ht hnames hdistinct (run_save_eq_failed.mp hfailed).2
  rw [List.map_append, List.nodup_append'] at hdistinct
  refine ⟨⟨made, h.run_eq, hfailed⟩, houtcome.delivered hd ht hfront, ?_⟩
  intro g hg
  have hother : g.path ∉ d.written := fun hmem =>
    hdistinct.2.2 (houtcome.mem_written.mp hmem).1 (List.mem_map_of_mem hg)
  refine ⟨hother, ?_⟩
  rw [placeOf_entry (hnames g (List.mem_append_right _ hg))]
  exact houtcome.frame.content? (mt mem_writtenPlaces.mp hother)

theorem saveAll_error_iff {e : DeliveryError} (hd : Descends directory) (ht : t.Sound)
    (hnames : ∀ g ∈ files, IsEntryName g.path) (hdistinct : (files.map (·.path)).Nodup) :
    (saveAll FileTree.disk mode directory files).run t = (.error e, t') ↔
      ∃ front f back d, files = front ++ f :: back ∧ e = .unwritable (join directory f.path) ∧
        Stopped mode directory t front f back d t' := by
  constructor
  · intro h
    obtain ⟨front, f, back, d, made, rfl, rfl, hsaved, hfailed⟩ := saveAll_eq_error h
    exact ⟨front, f, back, d, rfl, rfl, hsaved.stopped hd ht hnames hdistinct (run_save_eq_failed.mpr hfailed)⟩
  · rintro ⟨front, f, back, d, rfl, rfl, hstopped⟩
    obtain ⟨made, hsaved, hfailed⟩ := hstopped.failed
    obtain ⟨hkept, hwrite⟩ := run_save_eq_failed.mp hfailed
    exact (saveAll_eq_ok hsaved).run_failed hkept hwrite back

def KeepingRun (t t' : FileTree) : Prop :=
  ∃ fileName source m directory i, Manifest.read fileName source = .ok m ∧ Descends directory ∧
    ((deliver FileTree.disk .ifMissing directory i m).run t).2 = t'

theorem exists_outcome (hd : Descends directory) (ht : t.Sound) (hnames : ∀ g ∈ files, IsEntryName g.path)
    (hdistinct : (files.map (·.path)).Nodup) : ∃ front d, front <+: files ∧
      Outcome mode directory t front d ((saveAll FileTree.disk mode directory files).run t).2 := by
  rcases savedAll_or_failed mode directory t files with
    ⟨d, t', h⟩ | ⟨front, f, back, d, made, t', rfl, h, hkept, hwrite⟩
  · refine ⟨files, d, List.prefix_rfl, ?_⟩
    rw [h.run_eq]
    exact h.outcome hd ht hnames hdistinct
  · refine ⟨front, d, List.prefix_append _ _, ?_⟩
    rw [h.run_failed hkept hwrite back]
    exact h.outcome_of_failed hd ht hnames hdistinct hwrite

theorem KeepingRun.keeps (h : KeepingRun t t') (ht : t.Sound) : t'.Sound ∧
    ∀ place content, t.content? place = some content → t'.content? place = some content := by
  obtain ⟨fileName, source, m, directory, i, hr, hd, rfl⟩ := h
  have hm := Manifest.checked_of_read hr
  cases hp : preview i m with
  | error why =>
    rw [deliver, hp]
    exact ⟨ht, fun _ _ hcontent => hcontent⟩
  | ok files =>
    have hnames := isEntryName_of_mem_preview hm hp
    rw [deliver_eq _ hp]
    obtain ⟨front, d, hfront, houtcome⟩ := exists_outcome hd ht hnames (nodup_preview hm hp)
    have hnames' : ∀ f ∈ front, IsEntryName f.path := fun f hf => hnames f (hfront.subset hf)
    exact ⟨houtcome.sound, fun _ _ hcontent => houtcome.content?_of_ifMissing hd ht hnames' hcontent⟩

theorem keepingRuns_keep (h : Relation.ReflTransGen KeepingRun t t') (ht : t.Sound) : t'.Sound ∧
    ∀ place content, t.content? place = some content → t'.content? place = some content := by
  induction h with
  | refl => exact ⟨ht, fun _ _ hcontent => hcontent⟩
  | tail _ hrun ih =>
    obtain ⟨hsound, hkeeps⟩ := hrun.keeps ih.1
    exact ⟨hsound, fun place content hcontent => hkeeps place content (ih.2 place content hcontent)⟩

/-- A delivery of which nothing can be generated changes nothing, one that fails stops at a file that cannot be
written, and whatever a file holds at some point of a sequence of keeping runs, it holds ever after. -/
theorem delivery_stopped (hr : Manifest.read fileName source = .ok m) (i : Indent) (mode : Overwrite)
    (hd : Descends directory) (ht : t.Sound) :
    (∀ why, preview i m = .error why →
      (deliver FileTree.disk mode directory i m).run t = (.error (.ungenerated why), t)) ∧
    (∀ files, preview i m = .ok files → ∀ e t',
      (deliver FileTree.disk mode directory i m).run t = (.error e, t') ↔
        ∃ front f back d, files = front ++ f :: back ∧ e = .unwritable (join directory f.path) ∧
          Stopped mode directory t front f back d t') ∧
    (∀ u v, Relation.ReflTransGen KeepingRun t u → Relation.ReflTransGen KeepingRun u v →
      ∀ place content, u.content? place = some content → v.content? place = some content) := by
  have hm := Manifest.checked_of_read hr
  refine ⟨?ungenerated, ?unwritable, ?runs⟩
  case ungenerated =>
    intro why hp
    rw [deliver, hp]
    rfl
  case unwritable =>
    intro files hp e t'
    rw [deliver_eq _ hp]
    exact saveAll_error_iff hd ht (isEntryName_of_mem_preview hm hp) (nodup_preview hm hp)
  case runs =>
    intro u v hu hv
    exact (keepingRuns_keep hv (keepingRuns_keep hu ht).1).2

def misnumbered : String :=
  "project.name = \"diary\"
components.Entry.encapsulation = 9
"

theorem diary_stopped :
    (∃ m why, Manifest.read "diary.toml" misnumbered = .ok m ∧ preview .tab m = .error why ∧
      (deliver FileTree.disk .always "out" .tab m).run desk = (.error (.ungenerated why), desk)) ∧
    (∃ m front f back d t', Manifest.read "diary.toml" diary = .ok m ∧ preview .tab m = .ok (front ++ f :: back) ∧
      Descends "old" ∧ desk.Sound ∧ join "old" f.path = "old/page.component.ts" ∧
      (deliver FileTree.disk .always "old" .tab m).run desk = (.error (.unwritable "old/page.component.ts"), t') ∧
      Stopped .always "old" desk front f back d t') ∧
    ∃ t', KeepingRun desk t' ∧
      ∀ place content, desk.content? place = some content → t'.content? place = some content := by
  have hold : Descends "old" := by decide +kernel
  have hout : Descends "out" := by decide +kernel
  have hdesk : desk.Sound := FileTree.sound_ofFiles (by decide +kernel) _
  obtain ⟨m, files, hr, hp, -, t', hrun⟩ := diary_runs
  refine ⟨?_, ?_, ?_⟩
  · have h : ∃ m, Manifest.read "diary.toml" misnumbered = .ok m ∧ (preview .tab m).isOk = false := by
      decide +kernel
    obtain ⟨m, hr, hfail⟩ := h
    cases hp : preview .tab m with
    | error why => exact ⟨m, why, hr, hp, (delivery_stopped hr .tab .always hout hdesk).1 why hp⟩
    | ok files =>
      rw [hp] at hfail
      cases hfail
  · obtain ⟨front, f, back, d, rfl, he, hstopped⟩ :=
      ((delivery_stopped hr .tab .always hold hdesk).2.1 files hp _ _).mp hrun
    have hpath : join "old" f.path = "old/page.component.ts" := (DeliveryError.unwritable.inj he).symm
    exact ⟨m, front, f, back, d, t', hr, hp, hold, hdesk, hpath, hrun, hstopped⟩
  · have hkeeping : KeepingRun desk ((deliver FileTree.disk .ifMissing "out" .tab m).run desk).2 :=
      ⟨_, _, m, "out", .tab, hr, hout, rfl⟩
    have hkeeps := (delivery_stopped hr .tab .ifMissing hout hdesk).2.2 desk _ .refl (.single hkeeping)
    exact ⟨_, hkeeping, hkeeps⟩

end AngularScaffold.Angular
