import AngularScaffold.Manifest.Read
import AngularScaffold.Proofs.Except
import AngularScaffold.Proofs.KeyedList

namespace AngularScaffold

namespace Naming

structure Bindable (name : String) : Prop where
  free : name ∉ reservedWords
  spelled : ∃ c cs, name.toList = c :: cs ∧ startsIdentifier c = true ∧ ∀ x ∈ cs, inIdentifier x = true

theorem nameFault?_eq_none {name : String} : nameFault? name = none ↔
    ∃ c cs, name.toList = c :: cs ∧ startsIdentifier c = true ∧ ∀ x ∈ cs, inIdentifier x = true := by
  unfold nameFault?
  cases name.toList with
  | nil => simp
  | cons c cs =>
    by_cases hc : startsIdentifier c = true
    · by_cases hcs : cs.all inIdentifier = true
      · simp only [hc, hcs, Bool.not_true, Bool.false_eq_true, if_false, if_true, true_iff]
        exact ⟨c, cs, rfl, hc, List.all_eq_true.mp hcs⟩
      · simp only [hc, hcs, Bool.not_true, Bool.false_eq_true, if_false, reduceCtorEq, false_iff]
        rintro ⟨d, ds, he, -, hds⟩
        cases he
        exact hcs (List.all_eq_true.mpr hds)
    · simp only [hc, Bool.not_false, if_true, reduceCtorEq, false_iff]
      rintro ⟨d, ds, he, hd, -⟩
      cases he
      exact hc hd

theorem Bindable.inIdentifier {name : String} (h : Bindable name) {x : Char} (hx : x ∈ name.toList) :
    inIdentifier x = true := by
  obtain ⟨c, cs, he, hc, hcs⟩ := h.spelled
  rw [he] at hx
  rcases List.mem_cons.mp hx with rfl | hx
  · exact inIdentifier_of_starts hc
  · exact hcs x hx

end Naming

namespace Manifest

open Document Naming

def Apart (d e : Declaration) : Prop :=
  d.name ≠ e.name ∧ d.stem ≠ e.stem

theorem pairwise_apart_iff {classes : List Declaration} :
    classes.Pairwise Apart ↔ (classes.map (·.name)).Nodup ∧ (classes.map (·.stem)).Nodup := by
  have hmap : ∀ key : Declaration → String, (classes.map key).Nodup ↔ classes.Pairwise fun d e => key d ≠ key e :=
    fun key => List.pairwise_map
  rw [hmap, hmap]
  exact List.pairwise_and_iff

structure Checked (m : Manifest) : Prop where
  named : trimStart m.project.name.toList ≠ []
  classNames : ∀ d ∈ m.classes, Bindable d.name
  apart : m.classes.Pairwise Apart
  symbolNames : ∀ name ∈ m.symbols.keys, Bindable name
  routeNames : ∀ r ∈ m.routes, Bindable r.component

theorem checkName_eq_ok {name : String} {site : NameSite} {span : Option Span} :
    checkName name site span = .ok () ↔ Bindable name := by
  unfold checkName
  by_cases hr : name ∈ reservedWords
  · have hb : isReserved name = true := by simpa [isReserved] using hr
    simp only [hb, if_true, reduceCtorEq, false_iff]
    exact fun h => h.free hr
  · have hb : isReserved name = false := by simpa [isReserved] using hr
    simp only [hb, Bool.false_eq_true, if_false]
    cases hf : nameFault? name with
    | none => simpa using ⟨hr, nameFault?_eq_none.mp hf⟩
    | some fault =>
      simp only [reduceCtorEq, false_iff]
      intro h
      rw [nameFault?_eq_none.mpr h.spelled] at hf
      cases hf

theorem checkClass_eq_ok {source : List Char} {before : List Declaration} {d : Declaration} :
    checkClass source before d = .ok () ↔ Bindable d.name ∧ ∀ e ∈ before, Apart e d := by
  simp only [checkClass, bind_unit_eq_ok, checkName_eq_ok]
  cases hn : before.find? (·.name == d.name) with
  | some first =>
    simp only [reduceCtorEq, and_false, false_iff]
    rintro ⟨-, h⟩
    have he : first.name = d.name := by simpa using List.find?_some hn
    exact (h first (List.mem_of_find?_eq_some hn)).1 he
  | none =>
    have hnames : ∀ e ∈ before, e.name ≠ d.name := by simpa using hn
    cases hs : before.find? (·.stem == d.stem) with
    | some first =>
      simp only [reduceCtorEq, and_false, false_iff]
      rintro ⟨-, h⟩
      have he : first.stem = d.stem := by simpa using List.find?_some hs
      exact (h first (List.mem_of_find?_eq_some hs)).2 he
    | none =>
      have hstems : ∀ e ∈ before, e.stem ≠ d.stem := by simpa using hs
      simp only [and_true]
      exact ⟨fun h => ⟨h, fun e he => ⟨hnames e he, hstems e he⟩⟩, fun h => h.1⟩

theorem checkClasses_eq_ok {source : List Char} {before rest : List Declaration} :
    checkClasses source before rest = .ok () ↔
      (∀ d ∈ rest, Bindable d.name) ∧ (∀ e ∈ before, ∀ d ∈ rest, Apart e d) ∧ rest.Pairwise Apart := by
  induction rest generalizing before with
  | nil => simp [checkClasses]
  | cons d rest ih =>
    simp only [checkClasses, bind_unit_eq_ok, checkClass_eq_ok, ih, List.mem_append, List.mem_singleton,
      List.forall_mem_cons, List.pairwise_cons]
    constructor
    · rintro ⟨⟨hd, hbefore⟩, hrest, hapart, hpairs⟩
      exact ⟨⟨hd, hrest⟩, fun e he => ⟨hbefore e he, hapart e (Or.inl he)⟩, hapart d (Or.inr rfl), hpairs⟩
    · rintro ⟨⟨hd, hrest⟩, hbefore, hself, hpairs⟩
      refine ⟨⟨hd, fun e he => (hbefore e he).1⟩, hrest, ?_, hpairs⟩
      rintro e (he | rfl)
      · exact (hbefore e he).2
      · exact hself

theorem checkSymbols_eq_ok {source : List Char} {names : List String} :
    checkSymbols source names = .ok () ↔ ∀ name ∈ names, Bindable name := by
  induction names with
  | nil => simp [checkSymbols]
  | cons name rest ih => simp [checkSymbols, bind_unit_eq_ok, checkName_eq_ok, ih]

theorem checkRoutes_eq_ok {source : List Char} {index : Nat} {routes : List Route} :
    checkRoutes source index routes = .ok () ↔ ∀ r ∈ routes, Bindable r.component := by
  induction routes generalizing index with
  | nil => simp [checkRoutes]
  | cons r rest ih => simp [checkRoutes, bind_unit_eq_ok, checkName_eq_ok, ih]

theorem validate_eq_ok {source : String} {m : Manifest} : validate source m = .ok () ↔ Checked m := by
  unfold validate
  by_cases hp : trimStart m.project.name.toList = []
  · simp only [hp, List.isEmpty_nil, if_true]
    exact ⟨fun h => (nomatch h), fun h => absurd hp h.named⟩
  · have he : (trimStart m.project.name.toList).isEmpty = false := by simpa using hp
    simp only [he, Bool.false_eq_true, if_false]
    change (checkClasses _ _ _ >>= _) = _ ↔ _
    simp only [bind_unit_eq_ok, checkClasses_eq_ok, checkSymbols_eq_ok, checkRoutes_eq_ok]
    constructor
    · rintro ⟨⟨hc, -, ha⟩, hs, hr⟩
      exact ⟨hp, hc, ha, hs, hr⟩
    · intro h
      exact ⟨⟨h.classNames, by simp, h.apart⟩, h.symbolNames, h.routeNames⟩

section Read

variable {fileName source : String} {m : Manifest} {e : Error}

def decoded (f : Format) (source : String) : Except Refusal Manifest :=
  decodeText f ((schema f).decode f) source

theorem read_eq_ok : read fileName source = .ok m ↔ decoded (formatOf fileName) source = .ok m ∧ Checked m := by
  rw [read, bind_eq_ok]
  simp only [mapError_eq_ok, bind_unit_eq_ok, validate_eq_ok]
  constructor
  · rintro ⟨m', hdecoded, hchecked, heq⟩
    cases heq
    exact ⟨hdecoded, hchecked⟩
  · rintro ⟨hdecoded, hchecked⟩
    exact ⟨m, hdecoded, hchecked, rfl⟩

theorem read_eq_error : read fileName source = .error e ↔
    (∃ why, decoded (formatOf fileName) source = .error why ∧ e = .refused why) ∨
    ∃ m, decoded (formatOf fileName) source = .ok m ∧ validate source m = .error e := by
  rw [read, bind_eq_error, mapError_eq_error]
  simp only [mapError_eq_ok, bind_unit_eq_error, pure, Except.pure, reduceCtorEq, and_false, or_false]
  simp only [eq_comm (b := e)]
  rfl

theorem checked_of_read (h : read fileName source = .ok m) : Checked m :=
  (read_eq_ok.mp h).2

end Read

namespace Checked

variable {m : Manifest}

theorem nodup_names (h : Checked m) : (m.classes.map (·.name)).Nodup :=
  (pairwise_apart_iff.mp h.apart).1

theorem nodup_stems (h : Checked m) : (m.classes.map (·.stem)).Nodup :=
  (pairwise_apart_iff.mp h.apart).2

theorem find?_name (h : Checked m) {d : Declaration} (hd : d ∈ m.classes) :
    m.classes.find? (·.name == d.name) = some d :=
  (find?_key_eq_some h.nodup_names).mpr ⟨hd, rfl⟩

end Checked

end Manifest

end AngularScaffold
