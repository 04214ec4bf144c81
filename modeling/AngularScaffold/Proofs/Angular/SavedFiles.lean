import AngularScaffold.Angular.Delivery
import AngularScaffold.Proofs.Angular.Paths
import AngularScaffold.Proofs.Files.SoundTree

/-!
Saving files one after the other into a file system in memory. Main statements: a run that goes well writes or
skips each file as the file system was before the run, changes no other place and leaves every file where it
belongs, and a run that fails has done the same with the files before the one that cannot be written.
-/

namespace AngularScaffold.Angular

open Files

def isKept (mode : Overwrite) (t : FileTree) (path : String) : Bool :=
  mode == .ifMissing && t.contains path

theorem isKept_iff {mode : Overwrite} {t : FileTree} {path : String} :
    isKept mode t path = true ↔ mode = .ifMissing ∧ t.contains path = true := by
  simp [isKept]

variable {mode : Overwrite} {directory : String} {t t' : FileTree} {f : GeneratedFile}
  {files : List GeneratedFile} {d : Delivery}

/-! ### One file -/

theorem run_contains (path : String) : (FileTree.disk.contains path).run t = pure (t.contains path, t) := rfl

theorem run_write (path content : String) : (FileTree.disk.write path content).run t =
    pure ((t.write path content.toUTF8).2, (t.write path content.toUTF8).1) := rfl

theorem run_save (path content : String) : (FileTree.disk.save mode path content).run t =
    if isKept mode t path then pure (.skipped, t)
    else pure (if (t.write path content.toUTF8).2 then .written else .failed, (t.write path content.toUTF8).1) := by
  unfold Disk.save
  cases mode with
  | always => simp [isKept, run_write]
  | ifMissing => cases h : t.contains path <;> simp [isKept, h, run_contains, run_write]

theorem run_save_eq_failed {path content : String} : (FileTree.disk.save mode path content).run t = (.failed, t') ↔
    isKept mode t path = false ∧ t.write path content.toUTF8 = (t', false) := by
  rw [run_save]
  refine Prod.ext_iff.trans ?_
  rcases t.write path content.toUTF8 with ⟨made, done⟩
  cases isKept mode t path <;> cases done <;> simp [pure]

/-! ### All files -/

inductive SavedAll (mode : Overwrite) (directory : String) :
    FileTree → List GeneratedFile → Delivery → FileTree → Prop
  | nil {t : FileTree} : SavedAll mode directory t [] {} t
  | kept {t t' : FileTree} {f : GeneratedFile} {rest : List GeneratedFile} {d : Delivery} :
      isKept mode t (join directory f.path) = true → SavedAll mode directory t rest d t' →
      SavedAll mode directory t (f :: rest) (d.after f.path true) t'
  | written {t made t' : FileTree} {f : GeneratedFile} {rest : List GeneratedFile} {d : Delivery} :
      isKept mode t (join directory f.path) = false →
      t.write (join directory f.path) f.content.toUTF8 = (made, true) → SavedAll mode directory made rest d t' →
      SavedAll mode directory t (f :: rest) (d.after f.path false) t'

theorem run_saveAll_kept (h : isKept mode t (join directory f.path) = true) (rest : List GeneratedFile) :
    (saveAll FileTree.disk mode directory (f :: rest)).run t =
      (((saveAll FileTree.disk mode directory rest).run t).1.map (·.after f.path true),
        ((saveAll FileTree.disk mode directory rest).run t).2) := by
  rw [saveAll, StateT.run_bind, run_save, if_pos h]
  rfl

theorem run_saveAll_written {made : FileTree} (h : isKept mode t (join directory f.path) = false)
    (hwrite : t.write (join directory f.path) f.content.toUTF8 = (made, true)) (rest : List GeneratedFile) :
    (saveAll FileTree.disk mode directory (f :: rest)).run t =
      (((saveAll FileTree.disk mode directory rest).run made).1.map (·.after f.path false),
        ((saveAll FileTree.disk mode directory rest).run made).2) := by
  rw [saveAll, StateT.run_bind, run_save, if_neg (by simp [h]), hwrite]
  rfl

theorem run_saveAll_failed {made : FileTree} (h : isKept mode t (join directory f.path) = false)
    (hwrite : t.write (join directory f.path) f.content.toUTF8 = (made, false)) (rest : List GeneratedFile) :
    (saveAll FileTree.disk mode directory (f :: rest)).run t =
      (.error (.unwritable (join directory f.path)), made) := by
  rw [saveAll, StateT.run_bind, run_save, if_neg (by simp [h]), hwrite]
  rfl

theorem SavedAll.run_eq (h : SavedAll mode directory t files d t') :
    (saveAll FileTree.disk mode directory files).run t = (.ok d, t') := by
  induction h with
  | nil => rfl
  | kept hkept _ ih =>
    rw [run_saveAll_kept hkept, ih]
    rfl
  | written hkept hwrite _ ih =>
    rw [run_saveAll_written hkept hwrite, ih]
    rfl

theorem SavedAll.run_failed {made : FileTree} (h : SavedAll mode directory t files d made)
    (hkept : isKept mode made (join directory f.path) = false)
    (hwrite : made.write (join directory f.path) f.content.toUTF8 = (t', false)) (rest : List GeneratedFile) :
    (saveAll FileTree.disk mode directory (files ++ f :: rest)).run t =
      (.error (.unwritable (join directory f.path)), t') := by
  induction h with
  | nil => exact run_saveAll_failed hkept hwrite rest
  | kept hkept' _ ih =>
    rw [List.cons_append, run_saveAll_kept hkept', ih hkept hwrite]
    rfl
  | written hkept' hwrite' _ ih =>
    rw [List.cons_append, run_saveAll_written hkept' hwrite', ih hkept hwrite]
    rfl

theorem savedAll_or_failed (mode : Overwrite) (directory : String) (t : FileTree) (files : List GeneratedFile) :
    (∃ d t', SavedAll mode directory t files d t') ∨
    ∃ front f rest d made t', files = front ++ f :: rest ∧ SavedAll mode directory t front d made ∧
      isKept mode made (join directory f.path) = false ∧
      made.write (join directory f.path) f.content.toUTF8 = (t', false) := by
  induction files generalizing t with
  | nil => exact .inl ⟨_, _, .nil⟩
  | cons f files ih =>
    cases hkept : isKept mode t (join directory f.path) with
    | true =>
      rcases ih t with ⟨d, t', h⟩ | ⟨front, g, rest, d, made, t', rfl, h, hfail⟩
      · exact .inl ⟨_, _, .kept hkept h⟩
      · exact .inr ⟨f :: front, g, rest, _, made, t', rfl, .kept hkept h, hfail⟩
    | false =>
      rcases hwrite : t.write (join directory f.path) f.content.toUTF8 with ⟨after, done⟩
      cases done with
      | false => exact .inr ⟨[], f, files, _, t, after, rfl, .nil, hkept, hwrite⟩
      | true =>
        rcases ih after with ⟨d, t', h⟩ | ⟨front, g, rest, d, made, t', rfl, h, hfail⟩
        · exact .inl ⟨_, _, .written hkept hwrite h⟩
        · exact .inr ⟨f :: front, g, rest, _, made, t', rfl, .written hkept hwrite h, hfail⟩

theorem savedAll_of_kept (h : ∀ f ∈ files, isKept mode t (join directory f.path) = true) :
    SavedAll mode directory t files ⟨[], files.map (·.path)⟩ t := by
  induction files with
  | nil => exact .nil
  | cons f files ih =>
    have hrest := ih fun g hg => h g (List.mem_cons_of_mem _ hg)
    exact .kept (h f List.mem_cons_self) hrest

theorem saveAll_eq_ok (h : (saveAll FileTree.disk mode directory files).run t = (.ok d, t')) :
    SavedAll mode directory t files d t' := by
  rcases savedAll_or_failed mode directory t files with ⟨d', after, hsaved⟩ | ⟨_, _, _, _, _, _, rfl, hsaved, hfail⟩
  · rw [hsaved.run_eq] at h
    cases h
    exact hsaved
  · rw [hsaved.run_failed hfail.1 hfail.2] at h
    cases h

theorem saveAll_eq_error {e : DeliveryError}
    (h : (saveAll FileTree.disk mode directory files).run t = (.error e, t')) :
    ∃ front f rest d made, files = front ++ f :: rest ∧ e = .unwritable (join directory f.path) ∧
      SavedAll mode directory t front d made ∧ isKept mode made (join directory f.path) = false ∧
      made.write (join directory f.path) f.content.toUTF8 = (t', false) := by
  rcases savedAll_or_failed mode directory t files with
    ⟨d', after, hsaved⟩ | ⟨front, f, rest, d, made, after, rfl, hsaved, hkept, hwrite⟩
  · rw [hsaved.run_eq] at h
    cases h
  · rw [hsaved.run_failed hkept hwrite] at h
    cases h
    exact ⟨front, f, rest, d, made, rfl, rfl, hsaved, hkept, hwrite⟩

theorem isStay_eq_false {path : String} (h : IsEntryName path) : isStay path = false := by
  simp [isStay, h.nonempty, h.notStay]

theorem placeOf_entry {path : String} (h : IsEntryName path) (t : FileTree) (directory : String) :
    t.placeOf (join directory path) = t.placeOf directory ++ [path] :=
  FileTree.placeOf_join h.flat (isStay_eq_false h) t

theorem lookup?_entry (hd : Descends directory) {path : String} (h : IsEntryName path) (ht : t.Sound) :
    t.lookup? (join directory path) =
      if isPath (join directory path) then t.find? (t.placeOf directory ++ [path]) else none := by
  rw [FileTree.lookup?_join hd h.flat (isStay_eq_false h) h.notParent ht, placeOf_entry h]

theorem read?_entry (hd : Descends directory) {path : String} (h : IsEntryName path) (ht : t.Sound) :
    t.read? (join directory path) =
      if isPath (join directory path) then t.content? (t.placeOf directory ++ [path]) else none := by
  rw [FileTree.read?, lookup?_entry hd h ht]
  cases isPath (join directory path) <;> rfl

def writtenPlaces (t : FileTree) (directory : String) (d : Delivery) : List Place :=
  d.written.map (t.placeOf directory ++ [·])

theorem mem_writtenPlaces {path : String} :
    t.placeOf directory ++ [path] ∈ writtenPlaces t directory d ↔ path ∈ d.written := by
  simp [writtenPlaces]

theorem placeOf_eq (h : t'.here = t.here) (path : String) : t'.placeOf path = t.placeOf path := by
  rw [FileTree.placeOf, FileTree.placeOf, FileTree.start, FileTree.start, h]

theorem lookup?_eq_of_frame (hd : Descends directory) {path : String} (h : IsEntryName path) (ht : t.Sound)
    (ht' : t'.Sound) {changed : List Place} (hframe : FileTree.Frame (t.placeOf directory) changed t t')
    (hpath : t.placeOf directory ++ [path] ∉ changed) :
    t'.lookup? (join directory path) = t.lookup? (join directory path) := by
  rw [lookup?_entry hd h ht, lookup?_entry hd h ht', placeOf_eq hframe.here, hframe.find?_below hpath]

theorem write_entry (hd : Descends directory) {path : String} (h : IsEntryName path) (ht : t.Sound)
    {content : ByteArray} (hwrite : t.write (join directory path) content = (t', true)) :
    t'.Sound ∧ FileTree.Frame (t.placeOf directory) [t.placeOf directory ++ [path]] t t' ∧
      t'.read? (join directory path) = some content := by
  have hsound := ht.write (join directory path) content
  have houtcome := FileTree.writeOutcome_join hd h.flat (isStay_eq_false h) t content
  rw [hwrite] at hsound houtcome
  cases houtcome with
  | written hpath hfound hframe =>
    rw [placeOf_entry h] at hfound hframe
    refine ⟨hsound, hframe, ?_⟩
    rw [read?_entry hd h hsound, if_pos hpath, placeOf_eq hframe.here, FileTree.content?, hfound]

theorem write_entry_failed (hd : Descends directory) {path : String} (h : IsEntryName path) (ht : t.Sound)
    {content : ByteArray} (hwrite : t.write (join directory path) content = (t', false)) :
    t'.Sound ∧ FileTree.Frame (t.placeOf directory) [] t t' := by
  have hsound := ht.write (join directory path) content
  have houtcome := FileTree.writeOutcome_join hd h.flat (isStay_eq_false h) t content
  rw [hwrite] at hsound houtcome
  cases houtcome with
  | failed hframe => exact ⟨hsound, hframe⟩

/-- What files that were saved leave behind. Whether a file is kept depends on the first file system alone: what is
written on the way stands in the way of no later file. -/
structure Outcome (mode : Overwrite) (directory : String) (t : FileTree) (files : List GeneratedFile)
    (d : Delivery) (t' : FileTree) : Prop where
  sound : t'.Sound
  frame : FileTree.Frame (t.placeOf directory) (writtenPlaces t directory d) t t'
  written : d.written = (files.filter fun f => !isKept mode t (join directory f.path)).map (·.path)
  skipped : d.skipped = (files.filter fun f => isKept mode t (join directory f.path)).map (·.path)
  contents : ∀ f ∈ files, isKept mode t (join directory f.path) = false →
    t'.read? (join directory f.path) = some f.content.toUTF8

namespace Outcome

theorem mem_written (h : Outcome mode directory t files d t') {path : String} : path ∈ d.written ↔
    path ∈ files.map (·.path) ∧ isKept mode t (join directory path) = false := by
  rw [h.written, List.mem_map, List.mem_map]
  constructor
  · rintro ⟨f, hf, rfl⟩
    rw [List.mem_filter, Bool.not_eq_true'] at hf
    exact ⟨⟨f, hf.1, rfl⟩, hf.2⟩
  · rintro ⟨⟨f, hf, rfl⟩, hfree⟩
    exact ⟨f, List.mem_filter.mpr ⟨hf, by simp [hfree]⟩, rfl⟩

theorem mem_skipped (h : Outcome mode directory t files d t') {path : String} : path ∈ d.skipped ↔
    path ∈ files.map (·.path) ∧ isKept mode t (join directory path) = true := by
  rw [h.skipped, List.mem_map, List.mem_map]
  constructor
  · rintro ⟨f, hf, rfl⟩
    rw [List.mem_filter] at hf
    exact ⟨⟨f, hf.1, rfl⟩, hf.2⟩
  · rintro ⟨⟨f, hf, rfl⟩, hkept⟩
    exact ⟨f, List.mem_filter.mpr ⟨hf, hkept⟩, rfl⟩

theorem kept (h : Outcome mode directory t files d t') (hkept : isKept mode t (join directory f.path) = true) :
    Outcome mode directory t (f :: files) (d.after f.path true) t' := by
  refine ⟨h.sound, h.frame, ?_, ?_, ?_⟩
  · rw [List.filter_cons_of_neg (by simp [hkept]), ← h.written]
    rfl
  · rw [List.filter_cons_of_pos (by simp [hkept]), List.map_cons, ← h.skipped]
    rfl
  · intro g hg hfree
    rcases List.mem_cons.mp hg with rfl | hg
    · rw [hkept] at hfree
      cases hfree
    · exact h.contents g hg hfree

theorem written_cons {made : FileTree} (h : Outcome mode directory made files d t') (hd : Descends directory)
    (ht : t.Sound) (hf : IsEntryName f.path) (hfiles : ∀ g ∈ files, IsEntryName g.path)
    (hother : f.path ∉ files.map (·.path)) (hkept : isKept mode t (join directory f.path) = false)
    (hwrite : t.write (join directory f.path) f.content.toUTF8 = (made, true)) :
    Outcome mode directory t (f :: files) (d.after f.path false) t' := by
  obtain ⟨hmade, hframe, hread⟩ := write_entry hd hf ht hwrite
  have hplaces : made.placeOf directory = t.placeOf directory := placeOf_eq hframe.here directory
  have hsame : ∀ g ∈ files, isKept mode made (join directory g.path) = isKept mode t (join directory g.path) := by
    intro g hg
    have hplace : t.placeOf directory ++ [g.path] ∉ [t.placeOf directory ++ [f.path]] := by
      intro hmem
      have hpath : g.path = f.path := by simpa using hmem
      exact hother (List.mem_map.mpr ⟨g, hg, hpath⟩)
    rw [isKept, isKept, FileTree.contains, FileTree.contains,
      lookup?_eq_of_frame hd (hfiles g hg) ht hmade hframe hplace]
  have hstill : made.placeOf directory ++ [f.path] ∉ writtenPlaces made directory d := by
    intro hmem
    exact hother (h.mem_written.mp (mem_writtenPlaces.mp hmem)).1
  have hframes := h.frame
  rw [writtenPlaces, hplaces] at hframes
  refine ⟨h.sound, hframe.trans hframes, ?_, ?_, ?_⟩
  · have hfree := List.filter_congr fun g hg => congrArg (!·) (hsame g hg)
    rw [List.filter_cons_of_pos (by simp [hkept]), List.map_cons, ← hfree, ← h.written]
    rfl
  · rw [List.filter_cons_of_neg (by simp [hkept]), ← List.filter_congr hsame, ← h.skipped]
    rfl
  · intro g hg hfree
    rcases List.mem_cons.mp hg with rfl | hg
    · rw [FileTree.read?, lookup?_eq_of_frame hd hf hmade h.sound h.frame hstill]
      exact hread
    · exact h.contents g hg ((hsame g hg).trans hfree)

theorem lookup?_eq (h : Outcome mode directory t files d t') (hd : Descends directory) (ht : t.Sound) {path : String}
    (hpath : IsEntryName path) (hother : path ∉ d.written) :
    t'.lookup? (join directory path) = t.lookup? (join directory path) := by
  have hplace : t.placeOf directory ++ [path] ∉ writtenPlaces t directory d := mt mem_writtenPlaces.mp hother
  exact lookup?_eq_of_frame hd hpath ht h.sound h.frame hplace

theorem isKept_after (h : Outcome mode directory t files d t') (hd : Descends directory) (ht : t.Sound)
    (hnames : ∀ f ∈ files, IsEntryName f.path) :
    ∀ f ∈ files, isKept .ifMissing t' (join directory f.path) = true := by
  intro f hf
  refine isKept_iff.mpr ⟨rfl, ?_⟩
  cases hkept : isKept mode t (join directory f.path) with
  | true =>
    have hother : f.path ∉ d.written := by simp [h.mem_written, hkept]
    rw [FileTree.contains, h.lookup?_eq hd ht (hnames f hf) hother]
    exact (isKept_iff.mp hkept).2
  | false =>
    have hread := h.contents f hf hkept
    rw [FileTree.read?] at hread
    rw [FileTree.contains]
    split at hread
    · rename_i hfound
      rw [hfound]
      rfl
    · cases hread

theorem content?_of_ifMissing (h : Outcome .ifMissing directory t files d t') (hd : Descends directory)
    (ht : t.Sound) (hnames : ∀ f ∈ files, IsEntryName f.path) {place : Place} {content : ByteArray}
    (hcontent : t.content? place = some content) : t'.content? place = some content := by
  rw [h.frame.content?, hcontent]
  intro hmem
  obtain ⟨path, hpath, rfl⟩ := List.mem_map.mp hmem
  obtain ⟨hpath, hfree⟩ := h.mem_written.mp hpath
  obtain ⟨f, hf, rfl⟩ := List.mem_map.mp hpath
  have hread := h.contents f hf hfree
  have hmissing : t.contains (join directory f.path) = false := by simpa [isKept] using hfree
  rw [read?_entry hd (hnames f hf) h.sound] at hread
  rw [FileTree.contains, lookup?_entry hd (hnames f hf) ht] at hmissing
  split at hread
  · rename_i hisPath
    rw [if_pos hisPath, Option.isSome_eq_false_iff, Option.isNone_iff_eq_none] at hmissing
    rw [FileTree.content?, hmissing] at hcontent
    cases hcontent
  · cases hread

theorem failed {made : FileTree} (h : Outcome mode directory t files d made) (hd : Descends directory)
    (hfiles : ∀ g ∈ files, IsEntryName g.path) (hf : IsEntryName f.path)
    (hwrite : made.write (join directory f.path) f.content.toUTF8 = (t', false)) :
    Outcome mode directory t files d t' := by
  obtain ⟨hsound, hframe⟩ := write_entry_failed hd hf h.sound hwrite
  have hplaces : made.placeOf directory = t.placeOf directory := placeOf_eq h.frame.here directory
  refine ⟨hsound, ?_, h.written, h.skipped, ?_⟩
  · rw [hplaces] at hframe
    have hframes := h.frame.trans hframe
    rwa [List.append_nil] at hframes
  · intro g hg hfree
    rw [FileTree.read?, lookup?_eq_of_frame hd (hfiles g hg) h.sound hsound hframe (by simp)]
    exact h.contents g hg hfree

end Outcome

theorem SavedAll.outcome (h : SavedAll mode directory t files d t') (hd : Descends directory) (ht : t.Sound)
    (hnames : ∀ f ∈ files, IsEntryName f.path) (hdistinct : (files.map (·.path)).Nodup) :
    Outcome mode directory t files d t' := by
  induction h with
  | nil => exact ⟨ht, FileTree.Frame.refl _ _, rfl, rfl, by simp⟩
  | kept hkept _ ih =>
    rw [List.map_cons, List.nodup_cons] at hdistinct
    have hrest := ih ht (fun g hg => hnames g (List.mem_cons_of_mem _ hg)) hdistinct.2
    exact hrest.kept hkept
  | written hkept hwrite _ ih =>
    rw [List.map_cons, List.nodup_cons] at hdistinct
    have hf := hnames _ List.mem_cons_self
    have hfiles := fun g hg => hnames g (List.mem_cons_of_mem _ hg)
    have hrest := ih (write_entry hd hf ht hwrite).1 hfiles hdistinct.2
    exact hrest.written_cons hd ht hf hfiles hdistinct.1 hkept hwrite

theorem SavedAll.outcome_of_failed {front back : List GeneratedFile} {made : FileTree}
    (h : SavedAll mode directory t front d made) (hd : Descends directory) (ht : t.Sound)
    (hnames : ∀ g ∈ front ++ f :: back, IsEntryName g.path) (hdistinct : ((front ++ f :: back).map (·.path)).Nodup)
    (hwrite : made.write (join directory f.path) f.content.toUTF8 = (t', false)) :
    Outcome mode directory t front d t' := by
  have hfront : ∀ g ∈ front, IsEntryName g.path := fun g hg => hnames g (List.mem_append_left _ hg)
  have hf : IsEntryName f.path := hnames f (List.mem_append_right _ List.mem_cons_self)
  rw [List.map_append, List.nodup_append] at hdistinct
  exact (h.outcome hd ht hfront hdistinct.1).failed hd hfront hf hwrite

end AngularScaffold.Angular
