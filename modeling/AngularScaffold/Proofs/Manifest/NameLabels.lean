import AngularScaffold.Proofs.Document.CoveredBytes
import AngularScaffold.Proofs.Manifest.KeyPlaces
import AngularScaffold.Proofs.Manifest.Violations
import Mathlib.Order.Bounds.Basic

namespace AngularScaffold.Manifest

open Document Naming Text

def IsFirst (places : Set Nat) : Option Nat → Prop
  | some place => IsLeast places place
  | none => places = ∅

theorem IsFirst.eq_some_iff {places : Set Nat} {x : Option Nat} (h : IsFirst places x) {place : Nat} :
    x = some place ↔ IsLeast places place := by
  cases x with
  | none =>
    obtain rfl : places = ∅ := h
    exact iff_of_false nofun fun hleast => hleast.1
  | some a =>
    rw [Option.some_inj]
    exact ⟨fun heq => heq ▸ h, fun hleast => IsLeast.unique h hleast⟩

theorem IsFirst.exists_isLeast {places : Set Nat} {x : Option Nat} (h : IsFirst places x) (hne : places.Nonempty) :
    ∃ place, IsLeast places place := by
  cases x with
  | none => exact absurd h hne.ne_empty
  | some place => exact ⟨place, h⟩

theorem isFirst_earlier? {p q : Set Nat} {x y : Option Nat} (hx : IsFirst p x) (hy : IsFirst q y) :
    IsFirst (p ∪ q) (earlier? x y) := by
  cases x with
  | none =>
    obtain rfl : p = ∅ := hx
    rw [Set.empty_union]
    cases y <;> exact hy
  | some a =>
    cases y with
    | none =>
      obtain rfl : q = ∅ := hy
      rw [Set.union_empty]
      exact hx
    | some b => exact IsLeast.union hx hy

def placesOf (pattern : List Char) (offset : Nat) (cs : List Char) : Set Nat :=
  {place | ∃ a b, cs = a ++ (pattern ++ b) ∧ place = offset + byteLength a}

theorem placesOf_cons {pattern : List Char} {offset : Nat} {c : Char} {cs : List Char}
    (h : ¬pattern.isPrefixOf (c :: cs) = true) :
    placesOf pattern offset (c :: cs) = placesOf pattern (offset + c.utf8Size) cs := by
  ext place
  constructor
  · rintro ⟨a, b, hcs, rfl⟩
    cases a with
    | nil => exact absurd (List.isPrefixOf_iff_prefix.mpr ⟨b, hcs.symm⟩) h
    | cons d a =>
      rw [List.cons_append, List.cons.injEq] at hcs
      obtain ⟨rfl, hcs⟩ := hcs
      exact ⟨a, b, hcs, by rw [byteLength_cons, Nat.add_assoc]⟩
  · rintro ⟨a, b, rfl, rfl⟩
    exact ⟨c :: a, b, rfl, by rw [byteLength_cons, Nat.add_assoc]⟩

theorem isFirst_find? {pattern : List Char} (hne : pattern ≠ []) (offset : Nat) (cs : List Char) :
    IsFirst (placesOf pattern offset cs) (find? pattern offset cs) := by
  induction cs generalizing offset with
  | nil =>
    have hempty : pattern.isEmpty = false := by simpa using hne
    rw [find?, hempty, if_neg Bool.false_ne_true]
    refine Set.eq_empty_of_forall_notMem ?_
    rintro place ⟨a, b, hcs, -⟩
    exact hne (List.append_eq_nil_iff.mp (List.append_eq_nil_iff.mp hcs.symm).2).1
  | cons c cs ih =>
    rw [find?]
    split
    · rename_i hprefix
      obtain ⟨b, hb⟩ := List.isPrefixOf_iff_prefix.mp hprefix
      refine ⟨⟨[], b, hb.symm, rfl⟩, ?_⟩
      rintro place ⟨a, _, -, rfl⟩
      exact Nat.le_add_right _ _
    · rename_i hprefix
      rw [placesOf_cons hprefix]
      exact ih _

variable {source name : String} {span : Span}

def quoted (quote : Char) (name : String) : String :=
  String.ofList (quote :: (name.toList ++ [quote]))

theorem toList_quoted (quote : Char) (name : String) : (quoted quote name).toList = quote :: (name.toList ++ [quote]) :=
  String.toList_ofList

theorem quoted_ne_empty (quote : Char) (name : String) : quoted quote name ≠ "" := by
  intro h
  have hlist := toList_quoted quote name
  rw [h] at hlist
  cases hlist

/-- The name stands between two quotes of one kind, the first of which is at this place. -/
def QuotedAt (source name : String) (place : Nat) : Prop :=
  ∃ quote ∈ ['"', '\''], (spanAt place (byteLength (quoted quote name).toList)).Covers source (quoted quote name)

theorem placesOf_quoted (source name : String) (quote : Char) : placesOf (quoted quote name).toList 0 source.toList =
    {place | (spanAt place (byteLength (quoted quote name).toList)).Covers source (quoted quote name)} := by
  ext place
  constructor
  · rintro ⟨a, b, hsource, rfl⟩
    rw [Nat.zero_add]
    exact covers_of_append hsource
  · intro h
    obtain ⟨a, b, hsource, hspan⟩ := h.exists_append (quoted_ne_empty quote name)
    refine ⟨a, b, hsource, ?_⟩
    rw [Nat.zero_add]
    exact congrArg Span.start hspan

theorem isFirst_quoted (source name : String) : IsFirst {place | QuotedAt source name place}
    (earlier? (find? (quoted '"' name).toList 0 source.toList) (find? (quoted '\'' name).toList 0 source.toList)) := by
  have hunion : {place | QuotedAt source name place} =
      placesOf (quoted '"' name).toList 0 source.toList ∪ placesOf (quoted '\'' name).toList 0 source.toList := by
    rw [placesOf_quoted, placesOf_quoted]
    ext place
    simp [QuotedAt]
  have hne (quote : Char) : (quoted quote name).toList ≠ [] := by
    rw [toList_quoted]
    exact List.cons_ne_nil _ _
  rw [hunion]
  exact isFirst_earlier? (isFirst_find? (hne _) _ _) (isFirst_find? (hne _) _ _)

theorem valueSpan?_eq_some : valueSpan? source.toList name = some span ↔
    ∃ place, IsLeast {place | QuotedAt source name place} place ∧
      spanAt (place + 1) (byteLength name.toList) = span := by
  have hfirst := isFirst_quoted source name
  rw [toList_quoted, toList_quoted] at hfirst
  simp only [valueSpan?, Option.map_eq_some_iff, hfirst.eq_some_iff]

theorem exists_valueSpan? :
    (∃ span, valueSpan? source.toList name = some span) ↔ ∃ place, QuotedAt source name place := by
  simp only [valueSpan?_eq_some]
  constructor
  · rintro ⟨_, place, hleast, -⟩
    exact ⟨place, hleast.1⟩
  · rintro ⟨place, hplace⟩
    obtain ⟨first, hfirst⟩ := (isFirst_quoted source name).exists_isLeast ⟨place, hplace⟩
    exact ⟨_, first, hfirst, rfl⟩

theorem QuotedAt.covers {place : Nat} (h : QuotedAt source name place) :
    (spanAt (place + 1) (byteLength name.toList)).Covers source name := by
  obtain ⟨quote, hquote, h⟩ := h
  have hsize : quote.utf8Size = 1 := by
    simp only [List.mem_cons, List.not_mem_nil, or_false] at hquote
    rcases hquote with rfl | rfl <;> rfl
  obtain ⟨a, b, hsource, hspan⟩ := h.exists_append (quoted_ne_empty quote name)
  obtain rfl : place = byteLength a := congrArg Span.start hspan
  have hname : source.toList = (a ++ [quote]) ++ (name.toList ++ (quote :: b)) := by
    rw [hsource, toList_quoted]
    simp
  have hcovers := covers_of_append hname
  rwa [byteLength_append, byteLength_cons, hsize] at hcovers

theorem StandsAsKey.covers (h : StandsAsKey source.toList name span) : span.Covers source name := by
  obtain ⟨a, b, hsource, rfl, -⟩ := h
  exact covers_of_append hsource

theorem covers_of_mem_keySpans (h : span ∈ keySpans source.toList name) : span.Covers source name :=
  (standsAsKey_of_mem_keySpans h).covers

theorem covers_of_span? {site : NameSite} (h : site.span? source.toList name = some span) :
    span.Covers source name := by
  cases site with
  | ofRoute index =>
    obtain ⟨place, hleast, rfl⟩ := valueSpan?_eq_some.mp h
    exact QuotedAt.covers hleast.1
  | ofClass kind => exact covers_of_mem_keySpans (List.mem_of_head? h)
  | ofSymbol => exact covers_of_mem_keySpans (List.mem_of_head? h)

inductive Error.About : Error → Label → String → Prop
  | reserved {name : String} {site : NameSite} {s : Option Span} {l : Label} : About (.reservedWord name site s) l name
  | invalid {name : String} {site : NameSite} {fault : NameFault} {s : Option Span} {l : Label} :
      About (.invalidName name site fault s) l name
  | duplicate {name : String} {first second : ClassKind} {s₁ s₂ : Option Span} {l : Label} :
      About (.duplicateClass name first second s₁ s₂) l name
  | first {first second path : String} {s₁ s₂ : Option Span} {l : Label} : l.text = "generated as " ++ path →
      About (.fileCollision first second path s₁ s₂) l first
  | second {first second path : String} {s₁ s₂ : Option Span} {l : Label} : l.text = "also generated as " ++ path →
      About (.fileCollision first second path s₁ s₂) l second

theorem mem_label? {text : String} {s : Option Span} {l : Label} :
    l ∈ Error.label? text s ↔ l.text = text ∧ s = some l.span := by
  rw [Error.label?, List.mem_map]
  constructor
  · rintro ⟨t, ht, rfl⟩
    exact ⟨rfl, Option.mem_toList.mp ht⟩
  · rintro ⟨rfl, hs⟩
    exact ⟨l.span, Option.mem_toList.mpr hs, rfl⟩

theorem label?_ne_nil {text : String} {s : Option Span} : Error.label? text s ≠ [] ↔ ∃ t, s = some t := by
  cases s <;> simp [Error.label?]

theorem covers_of_mem_labels {v : Violation} {l : Label} (h : l ∈ (v.report source.toList).labels) :
    ∃ name, (v.report source.toList).About l name ∧ l.span.Covers source name := by
  cases v with
  | nameless => cases h
  | reserved name site => exact ⟨name, .reserved, covers_of_span? (mem_label?.mp h).2⟩
  | misspelled name site fault => exact ⟨name, .invalid, covers_of_span? (mem_label?.mp h).2⟩
  | redeclared name first second =>
    refine ⟨name, .duplicate, ?_⟩
    rcases List.mem_append.mp h with h | h
    · exact covers_of_mem_keySpans (List.mem_of_getElem? (mem_label?.mp h).2)
    · exact covers_of_mem_keySpans (List.mem_of_getElem? (mem_label?.mp h).2)
  | colliding first second path =>
    rcases List.mem_append.mp h with h | h
    · obtain ⟨htext, hspan⟩ := mem_label?.mp h
      exact ⟨first, .first htext, covers_of_mem_keySpans (List.mem_of_head? hspan)⟩
    · obtain ⟨htext, hspan⟩ := mem_label?.mp h
      exact ⟨second, .second htext, covers_of_mem_keySpans (List.mem_of_head? hspan)⟩

def Error.routed? : Error → Option String
  | reservedWord name (.ofRoute _) _ => some name
  | invalidName name (.ofRoute _) _ _ => some name
  | _ => none

theorem Error.About.eq_of_routed? {e : Error} {l : Label} {other : String} (h : e.About l other)
    (hrouted : e.routed? = some name) : other = name := by
  cases h with
  | @reserved _ site =>
    cases site with
    | ofClass | ofSymbol => cases hrouted
    | ofRoute index => exact Option.some.inj hrouted
  | @invalid _ site =>
    cases site with
    | ofClass | ofSymbol => cases hrouted
    | ofRoute index => exact Option.some.inj hrouted
  | duplicate | first | second => cases hrouted

theorem labels_of_routed? {v : Violation} (h : (v.report source.toList).routed? = some name) :
    ∃ text, (v.report source.toList).labels = Error.label? text (valueSpan? source.toList name) := by
  cases v with
  | nameless | redeclared | colliding => cases h
  | reserved name' site =>
    cases site with
    | ofClass | ofSymbol => cases h
    | ofRoute index =>
      cases h
      exact ⟨_, rfl⟩
  | misspelled name' site fault =>
    cases site with
    | ofClass | ofSymbol => cases h
    | ofRoute index =>
      cases h
      exact ⟨_, rfl⟩

/-- What is wrong with a manifest that can be decoded is labelled with the bytes of the name each label is about. The
component of a route is labelled if it stands between two quotes of one kind, and then where it does so first. -/
theorem labels_on_names {fileName source : String} {e : Error} (hread : read fileName source = .error e)
    (hdecoded : ∀ why, e ≠ .refused why) :
    (∀ l ∈ e.labels, ∃ name, e.About l name ∧ l.span.Covers source name) ∧
    ∀ name, e.routed? = some name →
      (e.labels ≠ [] ↔ ∃ place, QuotedAt source name place) ∧
      ∀ l ∈ e.labels, ∃ place, IsLeast {place | QuotedAt source name place} place ∧
        l.span = spanAt (place + 1) (byteLength name.toList) := by
  obtain ⟨v, rfl⟩ : ∃ v : Violation, e = v.report source.toList := by
    rcases read_eq_error.mp hread with ⟨why, -, rfl⟩ | ⟨m, -, hinvalid⟩
    · exact absurd rfl (hdecoded why)
    · obtain ⟨v, -, rfl⟩ := validate_eq_error.mp hinvalid
      exact ⟨v, rfl⟩
  refine ⟨fun l hl => covers_of_mem_labels hl, ?_⟩
  intro name hname
  obtain ⟨text, hlabels⟩ := labels_of_routed? hname
  rw [hlabels]
  constructor
  · exact label?_ne_nil.trans exists_valueSpan?
  · intro l hl
    obtain ⟨place, hleast, hspan⟩ := valueSpan?_eq_some.mp (mem_label?.mp hl).2
    exact ⟨place, hleast, hspan.symm⟩

def dashedText : String :=
  "[project]\nname = \"x\"\n[[routes]]\npath = 'my-page'\ncomponent = \"my-page\"\n"

theorem dashed_label : ∃ e l, read "ngwrite.toml" dashedText = .error e ∧ (∀ why, e ≠ .refused why) ∧
    e.routed? = some "my-page" ∧ e.labels = [l] ∧ l.span = ⟨40, 47⟩ ∧ l.span.Covers dashedText "my-page" ∧
    IsLeast {place | QuotedAt dashedText "my-page" place} 39 := by
  obtain ⟨e, he, hrouted, hspans⟩ : ∃ e, read "ngwrite.toml" dashedText = .error e ∧
      e.routed? = some "my-page" ∧ e.labels.map (·.span) = [⟨40, 47⟩] := by
    have hread : ((read "ngwrite.toml" dashedText).mapError fun e => (e.routed?, e.labels.map (·.span))).map
        (fun _ => ()) = .error (some "my-page", [⟨40, 47⟩]) := by decide +kernel
    obtain ⟨e, he, hpair⟩ := mapError_eq_error.mp (map_eq_error.mp hread)
    exact ⟨e, he, Prod.mk.inj hpair⟩
  obtain ⟨l, hlabels, hspan⟩ := List.map_eq_singleton_iff.mp hspans
  have hmem : l ∈ e.labels := hlabels ▸ List.mem_singleton_self l
  have hdecoded : ∀ why, e ≠ .refused why := by
    rintro why rfl
    cases hrouted
  obtain ⟨hcovers, hroute⟩ := labels_on_names he hdecoded
  obtain ⟨name, habout, hname⟩ := hcovers l hmem
  obtain rfl : name = "my-page" := habout.eq_of_routed? hrouted
  obtain ⟨place, hleast, hplace⟩ := (hroute _ hrouted).2 l hmem
  obtain rfl : place = 39 := Nat.succ.inj (congrArg Span.start (hplace.symm.trans hspan))
  exact ⟨e, l, he, hdecoded, hrouted, hlabels, hspan, hname, hleast⟩

end AngularScaffold.Manifest
