import AngularScaffold.Proofs.Command.Rehearsals
import AngularScaffold.Proofs.Document.JsonRoundTrip
import AngularScaffold.Proofs.Files.WrittenPath

/-!
The manifest that a new project starts with. Main statement: what exists is left as it is; where a first manifest is
created, nothing else is changed as long as its path can be followed, and it passes the check that it is announced
with exactly if its name does not say that it is JSON.
-/

namespace AngularScaffold.Command

open Angular Document Files Manifest

variable {t t' : FileTree} {path : String}

theorem invoke_init (hp : IsValue path) : invoke ["init", "--path", path] t =
    if t.contains path then (.error (.taken path), t)
    else if (t.write path starter.toUTF8).2 then (.ok (createdReport path), (t.write path starter.toUTF8).1)
    else (.error (.delivery (.unwritable path)), (t.write path starter.toUTF8).1) := by
  have hkept : isKept .ifMissing t path = t.contains path := rfl
  rw [invoke_eq (read_init hp), run, runInit, StateT.run_bind, run_save, hkept]
  cases t.contains path with
  | true => rfl
  | false =>
    rcases t.write path starter.toUTF8 with ⟨t', done⟩
    cases done <;> rfl

def tomlFrom? (k : Cursor) : Option Source := do
  let k := Toml.skipMark k
  let statements ← Toml.readStatements? (k.rest.length + 1) k
  let (top, sections) := Toml.sections statements
  let fields ← Toml.assignAll top []
  let fields ← Toml.addSections sections fields
  pure ⟨.toml, .table (Toml.toEntries fields) (.point 0), none⟩

theorem toml_read?_eq (source : String) : Toml.read? source = tomlFrom? ⟨0, source.toList⟩ := rfl

theorem json_root_eq (source : String) :
    (Json.read source).root = (Json.readValue Json.maxDepth ⟨0, source.toList⟩).1 := by
  rw [Json.read, Cursor.start]
  split
  · rename_i h
    rw [h]
  · rename_i h
    rw [h]

set_option maxRecDepth 4000 in
theorem starter_readings : ∃ cs, starter = String.ofList cs ∧
    (match (tomlFrom? ⟨0, cs⟩).map (·.decode ((schema .toml).decode .toml)) with
      | some (.ok m) => (validate "" m).isOk && (classFiles m m.classes).isOk && (configFiles m).isOk
      | _ => false) = true ∧
    ((schema .json).decode .json (Json.readValue Json.maxDepth ⟨0, cs⟩).1).isOk = false :=
  -- the characters are spelled out, since to compute them from the text takes long
  ⟨_, rfl, by decide +kernel, by decide +kernel⟩

theorem starter_as_toml (h : formatOf path = .toml) :
    ∃ m files, Manifest.read path starter = .ok m ∧ preview default m = .ok files := by
  obtain ⟨cs, hcs, hread, -⟩ := starter_readings
  rw [← String.toList_ofList (l := cs), ← hcs, ← toml_read?_eq] at hread
  split at hread
  · rename_i m hm
    obtain ⟨s, hs, hdecode⟩ := Option.map_eq_some_iff.mp hm
    simp only [Bool.and_eq_true] at hread
    obtain ⟨files, hp⟩ := preview_isOk hread.1.2 hread.2 default
    obtain ⟨_, hvalid⟩ := isOk_iff.mp hread.1.1
    refine ⟨m, files, ?_, hp⟩
    refine read_eq_ok.mpr ⟨?_, validate_eq_ok.mp hvalid⟩
    rw [h, decoded, decodeText]
    simp only [hs, mapError_eq_ok]
    exact hdecode
  · cases hread

theorem starter_as_json (h : formatOf path = .json) : ∃ why, Manifest.read path starter = .error why := by
  obtain ⟨cs, hcs, -, hread⟩ := starter_readings
  rw [← String.toList_ofList (l := cs), ← hcs, ← json_root_eq] at hread
  cases hm : Manifest.read path starter with
  | error why => exact ⟨why, rfl⟩
  | ok m =>
    have hdecoded := (read_eq_ok.mp hm).1
    rw [h] at hdecoded
    rw [decode_root hdecoded] at hread
    cases hread

theorem check_starter (hp : IsValue path) (hread : t.read? path = some starter.toUTF8) :
    ∃ checked : Outcome, invoke ["check", "--config", path] t = (checked, t) ∧
      (checked.exitCode = 0 ↔ formatOf path = .toml) := by
  have hloaded := loaded_of_text hread
  cases hformat : formatOf path with
  | toml =>
    obtain ⟨m, files, hm, hpreview⟩ := starter_as_toml hformat
    refine ⟨_, invoke_check (read_check hp).2 (hloaded.trans hm), ?_⟩
    simp [withFiles, hpreview, Outcome.exitCode]
  | json =>
    obtain ⟨why, hwhy⟩ := starter_as_json hformat
    refine ⟨_, invoke_unloaded (read_check hp).2 rfl (hloaded.trans hwhy), ?_⟩
    simp [Outcome.exitCode]

structure Created (t : FileTree) (path : String) (outcome : Outcome) (t' : FileTree) : Prop where
  announced : ∃ before after, outcome.output = unlines (before ++ ("  ngwrite check --config " ++ path) :: after)
  read : t'.read? path = some starter.toUTF8
  others : ∀ q, q ≠ t.destination path →
    t'.find? q = t.find? q ∨ t.find? q = none ∧ t'.find? q = some .directory ∧ q ∈ t.way path
  fresh : t.find? (t.destination path) = none ∨
    ¬ Descends path ∧ ∃ q, t.find? q = none ∧ t'.find? q = some .directory
  checked : ∃ checked : Outcome, invoke ["check", "--config", path] t' = (checked, t') ∧
    (checked.exitCode = 0 ↔ formatOf path = .toml)

theorem created (hp : IsValue path) (ht : t.Sound) (hmissing : t.contains path = false)
    (hwrite : t.write path starter.toUTF8 = (t', true)) : Created t path (.ok (createdReport path)) t' := by
  have hwritten := FileTree.written_of_write ht hwrite
  have hread : t'.read? path = some starter.toUTF8 := by
    rw [FileTree.read?, hwritten.found]
  exact {
    announced := ⟨["Created " ++ path, "", "Next steps:"], ["  ngwrite bake --config " ++ path], rfl⟩
    read := hread
    others := hwritten.others
    fresh := hwritten.fresh hmissing
    checked := check_starter hp hread }

/-- What exists is left alone. Otherwise a first manifest is created as soon as it can be written. Then the only other
changes are missing directories on its way; something can have stood in its place only if the path leads up again
out of such a directory; and the check that is announced succeeds exactly if the name is one for TOML. -/
theorem first_manifest (hp : IsValue path) (ht : t.Sound) :
    ∃ (outcome : Outcome) (t' : FileTree), invoke ["init", "--path", path] t = (outcome, t') ∧
      (t.contains path = true → outcome.exitCode = 1 ∧ t' = t) ∧
      (outcome.exitCode = 0 ↔ t.contains path = false ∧ (t.write path starter.toUTF8).2 = true) ∧
      (outcome.exitCode = 0 → Created t path outcome t') := by
  rw [invoke_init hp]
  cases hcontains : t.contains path with
  | true => exact ⟨_, t, rfl, fun _ => ⟨rfl, rfl⟩, by simp [Outcome.exitCode], nofun⟩
  | false =>
    rcases hwrite : t.write path starter.toUTF8 with ⟨t', done⟩
    cases done with
    | true => exact ⟨_, t', rfl, nofun, by simp [Outcome.exitCode], fun _ => created hp ht hcontains hwrite⟩
    | false => exact ⟨_, t', rfl, nofun, by simp [Outcome.exitCode], nofun⟩

theorem study_first_manifest : IsValue "plans/ngwrite.toml" ∧ IsValue "diary.toml" ∧ study.Sound ∧
    (∃ (outcome : Outcome) (t' : FileTree), invoke ["init", "--path", "plans/ngwrite.toml"] study = (outcome, t') ∧
      outcome.exitCode = 0 ∧ Created study "plans/ngwrite.toml" outcome t' ∧
      ∃ checked : Outcome, invoke ["check", "--config", "plans/ngwrite.toml"] t' = (checked, t') ∧
        checked.exitCode = 0) ∧
    ∃ outcome : Outcome, invoke ["init", "--path", "diary.toml"] study = (outcome, study) ∧ outcome.exitCode = 1 := by
  have hnew : IsValue "plans/ngwrite.toml" := by decide
  have hold : IsValue "diary.toml" := by decide
  have hsound : study.Sound := FileTree.sound_ofFiles (by decide) _
  refine ⟨hnew, hold, hsound, ?_, ?_⟩
  · obtain ⟨outcome, t', hrun, -, hzero, hcreated⟩ := first_manifest hnew hsound
    have hwritten : study.contains "plans/ngwrite.toml" = false ∧
        (study.write "plans/ngwrite.toml" starter.toUTF8).2 = true := by decide +kernel
    have hcreated := hcreated (hzero.mpr hwritten)
    obtain ⟨checked, hcheck, hformat⟩ := hcreated.checked
    exact ⟨outcome, t', hrun, hzero.mpr hwritten, hcreated, checked, hcheck, hformat.mpr (by decide +kernel)⟩
  · obtain ⟨outcome, t', hrun, htaken, -⟩ := first_manifest hold hsound
    obtain ⟨hone, rfl⟩ := htaken (by decide +kernel)
    exact ⟨outcome, hrun, hone⟩

set_option maxRecDepth 4000 in
theorem starter_ne_note : starter ≠ "mine" := by
  intro h
  obtain ⟨cs, hcs⟩ : ∃ cs, starter = String.ofList ('[' :: cs) := ⟨_, rfl⟩
  have hnote : String.ofList ('[' :: cs) = String.ofList ['m', 'i', 'n', 'e'] := hcs.symm.trans h
  cases String.ofList_injective hnote

/-- Under a name for JSON the announced check fails, and a path that leads up again out of a directory that is
missing so far leads to a file that is replaced. -/
theorem first_manifest_misplaced :
    (∃ (outcome refused : Outcome) (t : FileTree),
      invoke ["init", "--path", "ngwrite.json"] (.empty ["work"]) = (outcome, t) ∧ outcome.exitCode = 0 ∧
      invoke ["check", "--config", "ngwrite.json"] t = (refused, t) ∧ refused.exitCode = 1) ∧
    ∃ (outcome : Outcome) (t : FileTree),
      (FileTree.ofFiles ["work"] [("b.toml", "mine".toUTF8)]).read? "b.toml" = some "mine".toUTF8 ∧
      invoke ["init", "--path", "a/../b.toml"] (.ofFiles ["work"] [("b.toml", "mine".toUTF8)]) = (outcome, t) ∧
      outcome.exitCode = 0 ∧ t.read? "b.toml" = some starter.toUTF8 ∧ starter ≠ "mine" := by
  constructor
  · have hp : IsValue "ngwrite.json" := by decide
    have hread : ((FileTree.empty ["work"]).write "ngwrite.json" starter.toUTF8).1.read? "ngwrite.json" =
        some starter.toUTF8 := rfl
    obtain ⟨why, hwhy⟩ : ∃ why, Manifest.read "ngwrite.json" starter = .error why := starter_as_json (by decide +kernel)
    have hloaded := (loaded_of_text hread).trans hwhy
    exact ⟨_, _, _, invoke_init hp, rfl, invoke_unloaded (read_check hp).2 rfl hloaded, rfl⟩
  · have hp : IsValue "a/../b.toml" := by decide
    refine ⟨_, _, rfl, invoke_init hp, rfl, ?_, starter_ne_note⟩
    rfl

end AngularScaffold.Command
