import AngularScaffold.Proofs.Angular.EnumMembers
import AngularScaffold.Proofs.Angular.PropertyLines
import AngularScaffold.Proofs.Angular.PropertyText

namespace AngularScaffold.Angular

open Layout

namespace Shape

inductive Refuses (s : Shape) : String × Value → PropertyError → Prop
  | noMember {key : String} {value : Value} {table : EnumTable} :
      EnumKey s key table → (∀ member, ¬ table.Selects value member) →
      s.Refuses (key, value) (table.refusal key value)

variable {s : Shape} {key : String} {value : Value} {table : EnumTable} {config : Config} {e : PropertyError}

theorem write_of_enumKey (h : EnumKey s key table) : s.write key value = table.render key value :=
  write_member (enumKey_iff.mp h)

theorem write_eq_ok_of_not_enumKey (h : ∀ table, ¬ EnumKey s key table) (value : Value) :
    ∃ text, s.write key value = .ok text := by
  unfold write
  split
  · rename_i table hrule
    exact absurd (enumKey_iff.mpr (rule?_eq_some.mp hrule)) (h table)
  all_goals exact ⟨_, rfl⟩

theorem write_eq_error : s.write key value = .error e ↔ s.Refuses (key, value) e := by
  constructor
  · intro h
    by_cases hkey : ∃ table, EnumKey s key table
    · obtain ⟨table, hkey⟩ := hkey
      rw [write_of_enumKey hkey, EnumTable.render_eq_error_iff hkey.unambiguous] at h
      obtain ⟨hvalue, rfl⟩ := h
      exact .noMember hkey hvalue
    · obtain ⟨text, htext⟩ := write_eq_ok_of_not_enumKey (not_exists.mp hkey) value
      rw [htext] at h
      cases h
  · rintro ⟨hkey, hvalue⟩
    rw [write_of_enumKey hkey, EnumTable.render_eq_error_iff hkey.unambiguous]
    exact ⟨hvalue, rfl⟩

theorem write_eq_ok_iff (h : EnumKey s key table) {text : String} :
    s.write key value = .ok text ↔ ∃ member, table.Selects value member ∧ text = table.qualify member := by
  rw [write_of_enumKey h]
  exact EnumTable.render_eq_ok_iff h.unambiguous

theorem write_write (h : EnumKey s key table) {text : String} (hwrite : s.write key value = .ok text) :
    s.write key (.text text) = .ok text := by
  rw [write_of_enumKey h] at hwrite ⊢
  exact EnumTable.render_render h.unambiguous hwrite

theorem properties_eq_error : s.properties config = .error e ↔ FirstFailure s.Refuses config.entries e := by
  have hcons (entry : String × Value) (rest : List (String × Value)) : s.writeEntries (entry :: rest) = (do
      let text ← s.write entry.1 entry.2
      let properties ← s.writeEntries rest
      .ok (⟨entry.1, text⟩ :: properties)) := rfl
  exact eq_error_iff_firstFailure (fun _ _ => write_eq_error) rfl hcons

theorem exists_properties_eq_error : (∃ e, s.properties config = .error e) ↔
    s = .ofClass .component ∧ ∃ entry ∈ config.entries, ∃ table, EnumKey s entry.1 table ∧
      ∀ member, ¬ table.Selects entry.2 member := by
  simp only [properties_eq_error, exists_firstFailure]
  constructor
  · rintro ⟨entry, hentry, e, hkey, hvalue⟩
    refine ⟨?_, _, hentry, _, hkey, hvalue⟩
    cases hkey <;> rfl
  · rintro ⟨-, entry, hentry, table, hkey, hvalue⟩
    exact ⟨entry, hentry, _, .noMember hkey hvalue⟩

theorem properties_eq_ok (h : s ≠ .ofClass .component) (config : Config) : ∃ ps, s.properties config = .ok ps := by
  cases hproperties : s.properties config with
  | ok ps => exact ⟨ps, rfl⟩
  | error e => exact absurd (exists_properties_eq_error.mp ⟨e, hproperties⟩).1 h

end Shape

def Stops (d : Declaration) (why : GenerationError) : Prop :=
  ∃ cause, (Shape.ofClass d.kind).properties d.config = .error cause ∧ ⟨d.kind.name, d.name, cause⟩ = why

variable {i : Indent} {m : Manifest} {d : Declaration} {e : PropertyError} {why : GenerationError}

theorem classFile_eq_error : classFile m d = .error e ↔ (Shape.ofClass d.kind).properties d.config = .error e := by
  rw [classFile, bind_eq_error, decoratorPieces, configPieces, map_eq_error, map_eq_error]
  simp

theorem classFile_eq_ok (h : d.kind ≠ .component) (m : Manifest) : ∃ file, classFile m d = .ok file := by
  have hshape : Shape.ofClass d.kind ≠ .ofClass .component := fun hd => h (Shape.ofClass.inj hd)
  obtain ⟨ps, hps⟩ := Shape.properties_eq_ok hshape d.config
  rw [classFile, decoratorPieces, configPieces_eq hps]
  exact ⟨_, rfl⟩

theorem configFile_eq_ok (m : Manifest) (config : Config) : ∃ file, configFile m config = .ok file := by
  obtain ⟨ps, hps⟩ := Shape.properties_eq_ok (s := .application) nofun config
  rw [configFile, configPieces_eq hps]
  exact ⟨_, rfl⟩

theorem classFiles_eq_error {ds : List Declaration} :
    classFiles m ds = .error why ↔ FirstFailure Stops ds why := by
  have hfails (d : Declaration) (why : GenerationError) :
      (classFile m d).mapError (⟨d.kind.name, d.name, ·⟩) = .error why ↔ Stops d why := by
    simp only [mapError_eq_error, classFile_eq_error, Stops]
  have hcons (d : Declaration) (rest : List Declaration) : classFiles m (d :: rest) = (do
      let file ← (classFile m d).mapError (⟨d.kind.name, d.name, ·⟩)
      let files ← classFiles m rest
      .ok (file :: files)) := rfl
  exact eq_error_iff_firstFailure hfails rfl hcons

theorem exists_configFiles (m : Manifest) : ∃ files, configFiles m = .ok files := by
  rw [configFiles]
  cases m.application with
  | none => exact ⟨_, rfl⟩
  | some config =>
    obtain ⟨file, hfile⟩ := configFile_eq_ok m config
    exact ⟨[file], bind_eq_ok.mpr ⟨file, mapError_eq_ok.mpr hfile, rfl⟩⟩

theorem not_stops (m : Manifest) {kind : ClassKind} (h : kind ≠ .component) (classes : OrderedMap Config) :
    ∀ d ∈ Manifest.declared kind classes, ∀ why, ¬ Stops d why := by
  rintro d hd why ⟨cause, hcause, -⟩
  obtain ⟨entry, -, rfl⟩ := List.mem_map.mp hd
  obtain ⟨file, hfile⟩ := classFile_eq_ok (d := ⟨kind, entry.1, entry.2⟩) h m
  rw [classFile_eq_error.mpr hcause] at hfile
  cases hfile

theorem preview_eq_error : preview i m = .error why ↔
    FirstFailure Stops (Manifest.declared .component m.components) why := by
  obtain ⟨files, hfiles⟩ := exists_configFiles m
  have hclasses : preview i m = .error why ↔ classFiles m m.classes = .error why := by
    rw [preview, map_eq_error, sourceFiles, bind_eq_error, hfiles]
    refine or_iff_left ?_
    rintro ⟨classes, -, h⟩
    cases h
  have hdirectives := not_stops m (show ClassKind.directive ≠ .component by decide) m.directives
  have hmodules := not_stops m (show ClassKind.module ≠ .component by decide) m.modules
  rw [hclasses, classFiles_eq_error, Manifest.classes, firstFailure_append hmodules, firstFailure_append hdirectives]

/-- Only values that stand for no member of the enumeration of their key are refused. The first of them in the
configuration is reported, and of all files only those of components can be missing for it. Every other value of
such a key becomes the full name of a member, which is read as the same member again. -/
theorem refusals (s : Shape) (config : Config) (i : Indent) (m : Manifest) :
    ((∃ e, s.properties config = .error e) ↔
      s = .ofClass .component ∧ ∃ entry ∈ config.entries, ∃ table, EnumKey s entry.1 table ∧
        ∀ member, ¬ table.Selects entry.2 member) ∧
    (∀ e, s.properties config = .error e ↔ FirstFailure s.Refuses config.entries e) ∧
    (∀ key table, EnumKey s key table → ∀ value text,
      (s.write key value = .ok text ↔ ∃ member, table.Selects value member ∧ text = table.qualify member) ∧
      (s.write key value = .ok text → s.write key (.text text) = .ok text)) ∧
    ((∃ why, preview i m = .error why) ↔
      ∃ d ∈ Manifest.declared .component m.components,
        ∃ e, (Shape.ofClass .component).properties d.config = .error e) ∧
    (∀ why, preview i m = .error why ↔ FirstFailure Stops (Manifest.declared .component m.components) why) ∧
    (∀ d, d.kind ≠ .component → ∃ file, classFile m d = .ok file) ∧
    ∃ file, configFile m config = .ok file := by
  refine ⟨Shape.exists_properties_eq_error, fun _ => Shape.properties_eq_error, ?_, ?_, fun _ => preview_eq_error,
    fun _ hd => classFile_eq_ok hd m, configFile_eq_ok m config⟩
  · intro key table hkey value text
    exact ⟨Shape.write_eq_ok_iff hkey, Shape.write_write hkey⟩
  · simp only [preview_eq_error, exists_firstFailure]
    refine exists_congr fun d => and_congr_right fun hd => ?_
    obtain ⟨entry, -, rfl⟩ := List.mem_map.mp hd
    constructor
    · rintro ⟨why, cause, hcause, -⟩
      exact ⟨cause, hcause⟩
    · rintro ⟨cause, hcause⟩
      exact ⟨_, cause, hcause, rfl⟩

def dialog : Config where
  entries := [("selector", .text "app-dialog"), ("changeDetection", .int 0), ("encapsulation", .int 7)]
  distinct := by decide

def dialogs : Manifest where
  project := ⟨"dialogs", none⟩
  symbols := .empty
  components := ⟨[("Page", .empty), ("Dialog", dialog), ("Alert", dialog)], by decide⟩
  directives := .empty
  modules := .empty
  application := none
  routes := []

theorem dialogs_refused :
    preview (.spaces 2) dialogs =
      .error ⟨"component", "Dialog", .ordinalOutOfRange "encapsulation" viewEncapsulation 7⟩ ∧
    (Shape.ofClass .component).write "changeDetection" (.text "ChangeDetectionStrategy.OnPush") =
      .ok "ChangeDetectionStrategy.OnPush" := by
  obtain ⟨-, hentries, hmembers, -, hcomponents, -⟩ := refusals (.ofClass .component) dialog (.spaces 2) dialogs
  have hdialog : (Shape.ofClass .component).properties dialog =
      .error (.ordinalOutOfRange "encapsulation" viewEncapsulation 7) := by
    have hnone : ∀ member, ¬ viewEncapsulation.Selects (.int 7) member :=
      (EnumTable.selected?_eq_none EnumKey.encapsulation.unambiguous).mp rfl
    refine (hentries _).mpr ⟨[("selector", .text "app-dialog"), ("changeDetection", .int 0)], _, [], rfl, ?_,
      .noMember .encapsulation hnone⟩
    intro entry hentry e hrefused
    have hwritten : ∀ entry ∈ [("selector", .text "app-dialog"), ("changeDetection", .int 0)],
        ((Shape.ofClass .component).write entry.1 entry.2).isOk = true := by decide +kernel
    have hentry := hwritten entry hentry
    rw [Shape.write_eq_error.mpr hrefused] at hentry
    cases hentry
  have hmember := hmembers "changeDetection" _ .changeDetection
  constructor
  · refine (hcomponents _).mpr ⟨[⟨.component, "Page", .empty⟩], ⟨.component, "Dialog", dialog⟩, _, rfl, ?_, _,
      hdialog, rfl⟩
    intro d hd why hstops
    obtain rfl := List.mem_singleton.mp hd
    obtain ⟨cause, hcause, -⟩ := hstops
    cases hcause
  · exact (hmember (.int 0) _).2 ((hmember (.int 0) _).1.mpr ⟨"OnPush", .ordinal rfl rfl, rfl⟩)

end AngularScaffold.Angular
