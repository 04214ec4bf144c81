import AngularScaffold.Proofs.Manifest.Checked
import Mathlib.Data.List.TakeWhile

/-!
Why a manifest is refused. Main statement: checking a manifest reports its first violation, in the order project,
classes, symbols, routes, and the text of the manifest has a say in nothing but the labels.
-/

namespace AngularScaffold

namespace Naming

inductive Misspelled : String → NameFault → Prop
  | empty : Misspelled "" .empty
  | badStart {name : String} {c : Char} {cs : List Char} :
      name.toList = c :: cs → startsIdentifier c = false → Misspelled name .badStart
  | badCharacter {name : String} {c x : Char} {cs : List Char} :
      name.toList = c :: cs → startsIdentifier c = true → x ∈ cs → inIdentifier x = false →
      Misspelled name .badCharacter

theorem nameFault?_eq_some {name : String} {fault : NameFault} :
    nameFault? name = some fault ↔ Misspelled name fault := by
  unfold nameFault?
  constructor
  · intro h
    split at h
    · rename_i hname
      have hempty : name = "" := String.toList_eq_nil_iff.mp hname
      cases h
      rw [hempty]
      exact .empty
    · rename_i c cs hname
      split at h
      · rename_i hc
        cases h
        exact .badStart hname (by simpa using hc)
      · rename_i hc
        split at h
        · cases h
        · rename_i hcs
          cases h
          obtain ⟨x, hx, hbad⟩ : ∃ x ∈ cs, inIdentifier x = false := by simpa using hcs
          exact .badCharacter hname (by simpa using hc) hx hbad
  · intro h
    cases h with
    | empty => rfl
    | badStart hname hc => simp [hname, hc]
    | badCharacter hname hc hx hbad =>
      rw [hname]
      have hcs : ¬∀ x ∈ _, inIdentifier x = true := fun hall => Bool.false_ne_true (hbad.symm.trans (hall _ hx))
      simp [hc, hcs]

end Naming

namespace Manifest

open Document Naming Unicode

inductive Violation where
  | nameless
  | reserved (name : String) (site : NameSite)
  | misspelled (name : String) (site : NameSite) (fault : NameFault)
  | redeclared (name : String) (first second : ClassKind)
  | colliding (first second path : String)
  deriving DecidableEq

def NameSite.span? (source : List Char) (name : String) : NameSite → Option Span
  | ofRoute _ => valueSpan? source name
  | _ => (keySpans source name).head?

def Violation.report (source : List Char) : Violation → Error
  | nameless => .namelessProject
  | reserved name site => .reservedWord name site (site.span? source name)
  | misspelled name site fault => .invalidName name site fault (site.span? source name)
  | redeclared name first second =>
    .duplicateClass name first second (keySpans source name)[0]? (keySpans source name)[1]?
  | colliding first second path =>
    .fileCollision first second path (keySpans source first).head? (keySpans source second).head?

def Error.violation? : Error → Option Violation
  | namelessProject => some .nameless
  | reservedWord name site _ => some (.reserved name site)
  | invalidName name site fault _ => some (.misspelled name site fault)
  | duplicateClass name first second _ _ => some (.redeclared name first second)
  | fileCollision first second path _ _ => some (.colliding first second path)
  | unreadable _ => none
  | refused _ => none

structure Error.SameButLabels (e e' : Error) : Prop where
  violation : e.violation? = e'.violation?
  message : e.message = e'.message
  code : e.code? = e'.code?
  help : e.help? = e'.help?

theorem violation?_report (source : List Char) (v : Violation) : (v.report source).violation? = some v := by
  cases v <;> rfl

theorem sameButLabels_report (source other : List Char) (v : Violation) :
    (v.report source).SameButLabels (v.report other) := by
  cases v <;> exact ⟨rfl, rfl, rfl, rfl⟩

/-! ### The first violation -/

inductive NameViolation (name : String) (site : NameSite) : Violation → Prop
  | reserved : name ∈ reservedWords → NameViolation name site (.reserved name site)
  | misspelled {fault : NameFault} : name ∉ reservedWords → Misspelled name fault →
      NameViolation name site (.misspelled name site fault)

inductive ClassViolation (before : List Declaration) (d : Declaration) : Violation → Prop
  | name {v : Violation} : NameViolation d.name (.ofClass d.kind) v → ClassViolation before d v
  | redeclared {first : Declaration} : Bindable d.name → first ∈ before → first.name = d.name →
      ClassViolation before d (.redeclared d.name first.kind d.kind)
  | colliding {first : Declaration} : Bindable d.name → (∀ e ∈ before, e.name ≠ d.name) →
      first ∈ before → first.stem = d.stem →
      ClassViolation before d (.colliding first.name d.name (d.stem ++ ".ts"))

structure Sound (classes : List Declaration) : Prop where
  names : ∀ d ∈ classes, Bindable d.name
  apart : classes.Pairwise Apart

/-- The violation in front of which there is none. -/
inductive FirstViolation (m : Manifest) : Violation → Prop
  | ofProject : (∀ c ∈ m.project.name.toList, isWhitespace c = true) → FirstViolation m .nameless
  | ofClass {before after : List Declaration} {d : Declaration} {v : Violation} :
      (∃ c ∈ m.project.name.toList, isWhitespace c = false) →
      m.classes = before ++ d :: after → Sound before → ClassViolation before d v → FirstViolation m v
  | ofSymbol {before after : List String} {name : String} {v : Violation} :
      (∃ c ∈ m.project.name.toList, isWhitespace c = false) → Sound m.classes →
      m.symbols.keys = before ++ name :: after → (∀ s ∈ before, Bindable s) →
      NameViolation name .ofSymbol v → FirstViolation m v
  | ofRoute {before after : List Route} {r : Route} {v : Violation} :
      (∃ c ∈ m.project.name.toList, isWhitespace c = false) → Sound m.classes →
      (∀ s ∈ m.symbols.keys, Bindable s) →
      m.routes = before ++ r :: after → (∀ s ∈ before, Bindable s.component) →
      NameViolation r.component (.ofRoute before.length) v → FirstViolation m v

section Checks

variable {source : List Char} {e : Error}

theorem checkName_eq_error {name : String} {site : NameSite} :
    checkName name site (site.span? source name) = .error e ↔
      ∃ v, NameViolation name site v ∧ e = v.report source := by
  unfold checkName
  by_cases hr : name ∈ reservedWords
  · have hb : isReserved name = true := by simpa [isReserved] using hr
    rw [if_pos hb, Except.error.injEq]
    constructor
    · rintro rfl
      exact ⟨_, .reserved hr, rfl⟩
    · rintro ⟨v, hv, rfl⟩
      cases hv with
      | reserved => rfl
      | misspelled hfree => exact absurd hr hfree
  · have hb : ¬isReserved name = true := by simpa [isReserved] using hr
    rw [if_neg hb]
    constructor
    · intro h
      split at h
      · rename_i fault hfault
        cases h
        exact ⟨_, .misspelled hr (nameFault?_eq_some.mp hfault), rfl⟩
      · cases h
    · rintro ⟨v, hv, rfl⟩
      cases hv with
      | reserved hin => exact absurd hin hr
      | misspelled _ hfault => simp only [nameFault?_eq_some.mpr hfault, Violation.report]

theorem checkClass_eq_error {before : List Declaration} (hb : Sound before) {d : Declaration} :
    checkClass source before d = .error e ↔ ∃ v, ClassViolation before d v ∧ e = v.report source := by
  -- no two classes before share a name or a stem, so each look-up finds the only one there can be
  obtain ⟨hnames, hstems⟩ := pairwise_apart_iff.mp hb.apart
  have hname : checkName d.name (.ofClass d.kind) (keySpans source d.name).head? = .error e ↔
      ∃ v, NameViolation d.name (.ofClass d.kind) v ∧ e = v.report source := checkName_eq_error
  simp only [checkClass]
  rw [bind_unit_eq_error, hname, checkName_eq_ok]
  constructor
  · rintro (⟨v, hv, rfl⟩ | ⟨hd, h⟩)
    · exact ⟨v, .name hv, rfl⟩
    · split at h
      · rename_i first hfirst
        obtain ⟨hmem, heq⟩ := (find?_key_eq_some hnames).mp hfirst
        cases h
        exact ⟨_, .redeclared hd hmem heq, rfl⟩
      · rename_i hnone
        split at h
        · rename_i first hfirst
          obtain ⟨hmem, heq⟩ := (find?_key_eq_some hstems).mp hfirst
          cases h
          exact ⟨_, .colliding hd (by simpa using hnone) hmem heq, rfl⟩
        · cases h
  · rintro ⟨v, hv, rfl⟩
    cases hv with
    | name hv => exact .inl ⟨v, hv, rfl⟩
    | redeclared hd hmem heq =>
      have hfirst := (find?_key_eq_some hnames).mpr ⟨hmem, heq⟩
      refine .inr ⟨hd, ?_⟩
      simp only [hfirst, Violation.report]
    | colliding hd hfresh hmem heq =>
      have hnone : before.find? (·.name == d.name) = none := by simpa using hfresh
      have hfirst := (find?_key_eq_some hstems).mpr ⟨hmem, heq⟩
      refine .inr ⟨hd, ?_⟩
      simp only [hnone, hfirst, Violation.report]

theorem checkClasses_eq_inTurn (before rest : List Declaration) :
    checkClasses source before rest = checkInTurn (checkClass source) before rest := by
  induction rest generalizing before with
  | nil => rfl
  | cons d rest ih =>
    rw [checkClasses, checkInTurn]
    simp only [ih]

theorem checkSymbols_eq_inTurn (before rest : List String) : checkSymbols source rest =
    checkInTurn (fun _ name => checkName name .ofSymbol (NameSite.ofSymbol.span? source name)) before rest := by
  induction rest generalizing before with
  | nil => rfl
  | cons name rest ih =>
    rw [checkSymbols, checkInTurn]
    simp only [← ih]
    rfl

theorem checkRoutes_eq_inTurn (before rest : List Route) : checkRoutes source before.length rest =
    checkInTurn (fun before r => checkName r.component (.ofRoute before.length)
      ((NameSite.ofRoute before.length).span? source r.component)) before rest := by
  induction rest generalizing before with
  | nil => rfl
  | cons r rest ih =>
    have hlen : before.length + 1 = (before ++ [r]).length := by simp
    rw [checkRoutes, checkInTurn, hlen]
    simp only [ih]
    rfl

theorem sound_iff {classes : List Declaration} : checkClasses source [] classes = .ok () ↔ Sound classes := by
  rw [checkClasses_eq_ok]
  exact ⟨fun h => ⟨h.1, h.2.2⟩, fun h => ⟨h.names, by simp, h.apart⟩⟩

theorem checkClasses_eq_error {classes : List Declaration} : checkClasses source [] classes = .error e ↔
    ∃ before d after, classes = before ++ d :: after ∧ Sound before ∧
      ∃ v, ClassViolation before d v ∧ e = v.report source := by
  rw [checkClasses_eq_inTurn, checkInTurn_eq_error]
  refine exists_congr fun before => exists_congr fun d => exists_congr fun after => and_congr_right fun _ => ?_
  rw [← checkClasses_eq_inTurn, sound_iff, List.nil_append]
  exact and_congr_right fun hb => checkClass_eq_error hb

theorem checkSymbols_eq_error {names : List String} : checkSymbols source names = .error e ↔
    ∃ before name after, names = before ++ name :: after ∧ (∀ s ∈ before, Bindable s) ∧
      ∃ v, NameViolation name .ofSymbol v ∧ e = v.report source := by
  rw [checkSymbols_eq_inTurn [], checkInTurn_eq_error]
  simp only [← checkSymbols_eq_inTurn, checkSymbols_eq_ok, checkName_eq_error]

theorem checkRoutes_eq_error {routes : List Route} : checkRoutes source 0 routes = .error e ↔
    ∃ before r after, routes = before ++ r :: after ∧ (∀ s ∈ before, Bindable s.component) ∧
      ∃ v, NameViolation r.component (.ofRoute before.length) v ∧ e = v.report source := by
  rw [← List.length_nil (α := Route), checkRoutes_eq_inTurn, checkInTurn_eq_error]
  simp only [← checkRoutes_eq_inTurn, checkRoutes_eq_ok, checkName_eq_error, List.nil_append]

theorem trimStart_eq_nil_iff {cs : List Char} : trimStart cs = [] ↔ ∀ c ∈ cs, isWhitespace c = true :=
  List.dropWhile_eq_nil_iff

theorem trimStart_ne_nil_iff {cs : List Char} : trimStart cs ≠ [] ↔ ∃ c ∈ cs, isWhitespace c = false := by
  simp [trimStart_eq_nil_iff]

theorem validate_eq_error {source : String} {m : Manifest} :
    validate source m = .error e ↔ ∃ v, FirstViolation m v ∧ e = v.report source.toList := by
  unfold validate
  by_cases hp : trimStart m.project.name.toList = []
  · have hblank := trimStart_eq_nil_iff.mp hp
    have hnamed : ¬∃ c ∈ m.project.name.toList, isWhitespace c = false := by simpa using hblank
    simp only [hp, List.isEmpty_nil, if_true]
    constructor
    · intro h
      cases h
      exact ⟨.nameless, .ofProject hblank, rfl⟩
    · rintro ⟨v, hv, rfl⟩
      cases hv with
      | ofProject => rfl
      | ofClass hn => exact absurd hn hnamed
      | ofSymbol hn => exact absurd hn hnamed
      | ofRoute hn => exact absurd hn hnamed
  · have hnamed := trimStart_ne_nil_iff.mp hp
    have he : (trimStart m.project.name.toList).isEmpty = false := by simpa using hp
    simp only [he, Bool.false_eq_true, if_false]
    change (checkClasses _ _ _ >>= _) = _ ↔ _
    rw [bind_unit_eq_error, bind_unit_eq_error, checkClasses_eq_error, sound_iff, checkSymbols_eq_error,
      checkSymbols_eq_ok, checkRoutes_eq_error]
    constructor
    · rintro (⟨before, d, after, hsplit, hb, v, hv, rfl⟩ |
        ⟨hc, ⟨before, name, after, hsplit, hb, v, hv, rfl⟩ |
          ⟨hs, before, r, after, hsplit, hb, v, hv, rfl⟩⟩)
      · exact ⟨v, .ofClass hnamed hsplit hb hv, rfl⟩
      · exact ⟨v, .ofSymbol hnamed hc hsplit hb hv, rfl⟩
      · exact ⟨v, .ofRoute hnamed hc hs hsplit hb hv, rfl⟩
    · rintro ⟨v, hv, rfl⟩
      cases hv with
      | ofProject hblank => exact absurd (trimStart_eq_nil_iff.mpr hblank) hp
      | ofClass _ hsplit hb hv => exact .inl ⟨_, _, _, hsplit, hb, v, hv, rfl⟩
      | ofSymbol _ hc hsplit hb hv => exact .inr ⟨hc, .inl ⟨_, _, _, hsplit, hb, v, hv, rfl⟩⟩
      | ofRoute _ hc hs hsplit hb hv => exact .inr ⟨hc, .inr ⟨hs, _, _, _, hsplit, hb, v, hv, rfl⟩⟩

end Checks

theorem FirstViolation.unique {m : Manifest} {v w : Violation} (hv : FirstViolation m v) (hw : FirstViolation m w) :
    v = w := by
  -- both would be what is reported of the same text, here the empty one
  have hrv : validate "" m = .error (v.report "".toList) := validate_eq_error.mpr ⟨v, hv, rfl⟩
  have hrw : validate "" m = .error (w.report "".toList) := validate_eq_error.mpr ⟨w, hw, rfl⟩
  rw [hrv] at hrw
  have hreports := congrArg Error.violation? (Except.error.inj hrw)
  rw [violation?_report, violation?_report] at hreports
  exact Option.some.inj hreports

/-! ### Names across sections -/

def classesOf (m : Manifest) : ClassKind → OrderedMap Config
  | .component => m.components
  | .directive => m.directives
  | .module => m.modules

theorem names_classes (m : Manifest) : m.classes.map (·.name) =
    [ClassKind.component, .directive, .module].flatMap fun kind => (m.classesOf kind).keys := by
  simp [classes, classesOf, declared, OrderedMap.keys, Pairs.keys, Function.comp_def]

theorem nodup_names_iff {m : Manifest} : (m.classes.map (·.name)).Nodup ↔
    ∀ name kind other, name ∈ (m.classesOf kind).keys → name ∈ (m.classesOf other).keys → kind = other := by
  have hall : ∀ kind, kind ∈ [ClassKind.component, .directive, .module] := by
    intro kind
    cases kind <;> decide
  rw [names_classes, nodup_flatMap_iff (by decide)]
  constructor
  · rintro ⟨-, howner⟩ name kind other hk ho
    exact howner kind (hall kind) other (hall other) name hk ho
  · intro h
    exact ⟨fun kind _ => (m.classesOf kind).distinct, fun kind _ other _ name => h name kind other⟩

/-- A manifest passes exactly if its project has a name, all its names can be bound, and no two of its classes
share a name or a file. Else its first violation is reported, and only the labels depend on the text. -/
theorem validation_outcome (source : String) (m : Manifest) :
    (validate source m = .ok () ↔
      (∃ c ∈ m.project.name.toList, isWhitespace c = false) ∧
      (∀ d ∈ m.classes, Bindable d.name) ∧
      (∀ name ∈ m.symbols.keys, Bindable name) ∧
      (∀ r ∈ m.routes, Bindable r.component) ∧
      (∀ name kind other, name ∈ (m.classesOf kind).keys → name ∈ (m.classesOf other).keys → kind = other) ∧
      (m.classes.map (·.stem)).Nodup) ∧
    (∀ e, validate source m = .error e ↔ ∃ v, FirstViolation m v ∧ e = v.report source.toList) ∧
    ∀ other, (validate other m = .ok () ↔ validate source m = .ok ()) ∧
      ∀ e e', validate source m = .error e → validate other m = .error e' → e.SameButLabels e' := by
  refine ⟨?accepted, fun e => validate_eq_error, fun other => ⟨?same, ?labels⟩⟩
  case accepted =>
    rw [validate_eq_ok, ← nodup_names_iff, ← trimStart_ne_nil_iff]
    constructor
    · intro h
      have hapart := pairwise_apart_iff.mp h.apart
      exact ⟨h.named, h.classNames, h.symbolNames, h.routeNames, hapart.1, hapart.2⟩
    · rintro ⟨hnamed, hclasses, hsymbols, hroutes, hnames, hstems⟩
      exact ⟨hnamed, hclasses, pairwise_apart_iff.mpr ⟨hnames, hstems⟩, hsymbols, hroutes⟩
  case same => rw [validate_eq_ok, validate_eq_ok]
  case labels =>
    intro e e' he he'
    obtain ⟨v, hv, rfl⟩ := validate_eq_error.mp he
    obtain ⟨w, hw, rfl⟩ := validate_eq_error.mp he'
    rw [hv.unique hw]
    exact sameButLabels_report _ _ w

def heroes : Manifest where
  project := ⟨"x", none⟩
  symbols := .ofList [("class", "./class")]
  components := .ofList [("HeroComponent", .empty), ("Hero", .empty)]
  directives := .ofList [("HeroDirective", .empty)]
  modules := .empty
  application := none
  routes := []

def heroesText : String :=
  "[components.HeroComponent]\n[components.Hero]\n[directives.HeroDirective]\n"

theorem heroes_collide : FirstViolation heroes (.colliding "HeroComponent" "Hero" "hero.component.ts") ∧
    ∃ e, validate heroesText heroes = .error e ∧
      e.labels.map (·.span) = [spanAt 12 13, spanAt 39 4] := by
  have h : (match validate heroesText heroes with
      | .error e => decide (e.violation? = some (.colliding "HeroComponent" "Hero" "hero.component.ts") ∧
          e.labels.map (·.span) = [spanAt 12 13, spanAt 39 4])
      | .ok () => false) = true := by
    decide +kernel
  split at h
  · rename_i e he
    obtain ⟨hviolation, hlabels⟩ := of_decide_eq_true h
    obtain ⟨v, hv, rfl⟩ := ((validation_outcome heroesText heroes).2.1 e).mp he
    rw [violation?_report] at hviolation
    exact ⟨Option.some.inj hviolation ▸ hv, _, he, hlabels⟩
  · cases h

end Manifest

end AngularScaffold
