import AngularScaffold.Command.Run
import AngularScaffold.Proofs.Angular.SavedFiles

namespace AngularScaffold.Command

open Angular Files

structure IsValue (text : String) : Prop where
  nonempty : text ≠ ""
  undashed : text.toList.head? ≠ some '-'

instance (text : String) : Decidable (IsValue text) :=
  decidable_of_iff (text ≠ "" ∧ text.toList.head? ≠ some '-') ⟨fun h => ⟨h.1, h.2⟩, fun h => ⟨h.1, h.2⟩⟩

variable {switches : List Switch} {given : Given} {arg value config directory : String} {rest : List String}
  {s : Switch}

theorem IsValue.isSwitch_eq_false (h : IsValue value) : isSwitch value = false := by
  simp [isSwitch, h.undashed]

theorem noteValue_eq (hkind : s.kind = .value) (hnew : given.any (·.1 == s.name) = false) (hv : IsValue value) :
    s.noteValue value given = .ok (given ++ [(s.name, value)]) := by
  rw [Switch.noteValue, if_neg (by simp [hv.nonempty]), Switch.note, hkind, hnew]
  rfl

theorem readSwitches_value (hswitch : isSwitch arg = true) (hdashes : (arg == "--") = false)
    (hread : readSwitch switches given arg = .ok (given, some s)) (hkind : s.kind = .value)
    (hnew : given.any (·.1 == s.name) = false) (hv : IsValue value) :
    readSwitches switches given (arg :: value :: rest) = readSwitches switches (given ++ [(s.name, value)]) rest := by
  rw [readSwitches, hswitch, hdashes, hread, Bool.not_true, Bool.or_self, if_neg Bool.false_ne_true]
  simp only [hv.isSwitch_eq_false, noteValue_eq hkind hnew hv, Bool.false_eq_true, if_false]

theorem read_init (h : IsValue value) : read ["init", "--path", value] = .ok (.init value) := by
  have hvalue : readSwitches [verbose, ⟨"path", some 'p', .value⟩] [] ["--path", value] =
      .ok ([("path", value)], []) :=
    (readSwitches_value (by decide) (by decide) rfl rfl rfl h).trans rfl
  show (readAll _ ["--path", value]).map _ = _
  rw [readAll, hvalue]
  rfl

theorem read_check (h : IsValue value) : read ["check", "-c", value] = .ok (.check value) ∧
    read ["check", "--config", value] = .ok (.check value) := by
  have hread : ∀ arg ∈ ["-c", "--config"], read ["check", arg, value] = .ok (.check value) := by
    intro arg harg
    have hvalue : readSwitches [verbose, ⟨"config", some 'c', .value⟩] [] [arg, value] =
        .ok ([("config", value)], []) := by
      rcases List.mem_pair.mp harg with rfl | rfl
      · exact (readSwitches_value (by decide) (by decide) rfl rfl rfl h).trans rfl
      · exact (readSwitches_value (by decide) (by decide) rfl rfl rfl h).trans rfl
    show (readAll _ [arg, value]).map _ = _
    rw [readAll, hvalue]
    rfl
  exact ⟨hread _ (by simp), hread _ (by simp)⟩

def invoke (args : List String) (t : FileTree) : Outcome × FileTree :=
  (runArguments FileTree.disk args).run t

variable {t : FileTree} {c : Command}

theorem invoke_eq {args : List String} (h : read args = .ok c) : invoke args t = (run FileTree.disk c).run t := by
  rw [invoke, runArguments, h]

def loaded (t : FileTree) (path : String) : Except Manifest.Error Manifest :=
  match (t.read? path).bind String.fromUTF8? with
  | some source => Manifest.read path source
  | none => .error (.unreadable path)

theorem loaded_of_text {path text : String} (h : t.read? path = some text.toUTF8) :
    loaded t path = Manifest.read path text := by
  have htext : String.fromUTF8? text.toUTF8 = some text := dif_pos text.isValidUTF8
  rw [loaded, h, Option.bind_some, htext]

theorem run_load (path : String) : (Manifest.load FileTree.disk path).run t = (loaded t path, t) := by
  have hread : (FileTree.disk.read? path).run t = pure (t.read? path, t) := rfl
  rw [Manifest.load, StateT.run_bind, hread, pure_bind, loaded]
  cases (t.read? path).bind String.fromUTF8? <;> rfl

section Manifests

variable {m : Manifest} {why : Manifest.Error} {path : String}

theorem run_withManifest (h : loaded t path = .ok m) (next : Manifest → StateM FileTree Outcome) :
    (withManifest FileTree.disk path next).run t = (next m).run t := by
  rw [withManifest, StateT.run_bind, run_load, h]
  rfl

theorem run_withManifest_error (h : loaded t path = .error why) (next : Manifest → StateM FileTree Outcome) :
    (withManifest FileTree.disk path next).run t = (.error (.manifest why), t) := by
  rw [withManifest, StateT.run_bind, run_load, h]
  rfl

def manifestOf? : Command → Option String
  | .init _ => none
  | .check config => some config
  | .bake config _ _ _ => some config

theorem invoke_unloaded {args : List String} (hread : read args = .ok c) (hpath : manifestOf? c = some path)
    (h : loaded t path = .error why) : invoke args t = (.error (.manifest why), t) := by
  rw [invoke_eq hread]
  cases c with
  | init _ => cases hpath
  | check _ =>
    cases hpath
    exact run_withManifest_error h _
  | bake _ _ dryRun _ =>
    cases hpath
    cases dryRun <;> exact run_withManifest_error h _

end Manifests

end AngularScaffold.Command
