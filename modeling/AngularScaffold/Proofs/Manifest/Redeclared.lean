import AngularScaffold.Proofs.Manifest.DeclaringHeaders
import AngularScaffold.Proofs.Manifest.KeyPlaces
import AngularScaffold.Proofs.Text.ByteSplits
import Mathlib.Data.List.Infix

/-!
Where a class is said to be declared twice. Main statement: the labels are at the first two places of its name as a
key, while the kinds they tell go by the order of the sections; so each label is right only if the headers of its kind
happen to come in that order.
-/

namespace AngularScaffold.Manifest

open Document Naming Text Toml

def headerStart (kind : ClassKind) : List Char :=
  '[' :: (kind.table.toList ++ ['.'])

/-- A header of a kind, or one of a sub-table, has the name at these bytes, without blanks and quotes in front. -/
def StandsInHeader (source : List Char) (kind : ClassKind) (name : String) (span : Span) : Prop :=
  ∃ front back, source = front ++ (headerStart kind ++ (name.toList ++ back)) ∧
    (back.head? = some ']' ∨ back.head? = some '.') ∧
    span = spanAt (byteLength (front ++ headerStart kind)) (byteLength name.toList)

variable {source : List Char} {kind other : ClassKind} {name : String} {span : Span}

theorem getLast?_headerStart (front : List Char) (kind : ClassKind) :
    (front ++ headerStart kind).getLast? = some '.' := by
  rw [headerStart, ← List.cons_append, ← List.append_assoc, List.getLast?_append]
  rfl

theorem StandsInHeader.standsAsKey (h : StandsInHeader source kind name span) : StandsAsKey source name span := by
  obtain ⟨front, back, hsource, hback, hspan⟩ := h
  refine ⟨front ++ headerStart kind, back, by rw [hsource, List.append_assoc], hspan, ?_⟩
  rw [getLast?_headerStart]
  rcases hback with hback | hback <;> simp [Occurrence.isKey, Occurrence.inHeader, hback]

theorem headerStart_suffix (h : headerStart kind <:+ headerStart other) : kind = other := by
  revert h
  cases kind <;> cases other <;> decide

theorem StandsInHeader.kind_eq (h : StandsInHeader source kind name span)
    (h' : StandsInHeader source other name span) : kind = other := by
  obtain ⟨front, back, hsource, -, hspan⟩ := h
  obtain ⟨front', back', hsource', -, hspan'⟩ := h'
  have hstart : byteLength (front ++ headerStart kind) = byteLength (front' ++ headerStart other) :=
    congrArg Span.start (hspan.symm.trans hspan')
  rw [← List.append_assoc] at hsource hsource'
  have hfront := (append_inj_of_byteLength (hsource.symm.trans hsource') hstart).1
  have hsuffix : headerStart other <:+ front ++ headerStart kind := hfront ▸ List.suffix_append _ _
  rcases List.suffix_or_suffix_of_suffix (List.suffix_append _ _) hsuffix with h | h
  · exact headerStart_suffix h
  · exact (headerStart_suffix h).symm

structure DeclaredPlainly (source name : String) (parts : Parts) : Prop where
  read : parts? source = some parts
  byHeaders : ByHeaders ClassKind.tables parts
  plain : ∀ place ∈ headerPlaces parts name, StandsInHeader source.toList place.1 name place.2

theorem name_mem_classesOf {m : Manifest} {d : Declaration} (h : d ∈ m.classes) :
    d.name ∈ (m.classesOf d.kind).keys := by
  rw [classes, List.mem_append, List.mem_append] at h
  rcases h with (h | h) | h <;>
  · obtain ⟨e, he, rfl⟩ := List.mem_map.mp h
    exact List.mem_map.mpr ⟨e, he, rfl⟩

theorem classes_ordered (m : Manifest) :
    m.classes.Pairwise fun d e => d.name = e.name → d.kind.Precedes e.kind := by
  have hsame (kind : ClassKind) (cs : OrderedMap Config) :
      (declared kind cs).Pairwise fun d e => d.name = e.name → d.kind.Precedes e.kind := by
    have hkeys : cs.entries.Pairwise fun e f => e.1 ≠ f.1 := List.pairwise_map.mp cs.distinct
    exact List.pairwise_map.mpr (hkeys.imp fun hne heq => absurd heq hne)
  have hacross {kind other : ClassKind} (hk : kind.Precedes other) (cs ds : OrderedMap Config) :
      ∀ d ∈ declared kind cs, ∀ e ∈ declared other ds, d.name = e.name → d.kind.Precedes e.kind := by
    intro d hd e he _
    obtain ⟨_, -, rfl⟩ := List.mem_map.mp hd
    obtain ⟨_, -, rfl⟩ := List.mem_map.mp he
    exact hk
  rw [classes, List.pairwise_append, List.pairwise_append]
  refine ⟨⟨hsame _ _, hsame _ _, hacross (by decide) _ _⟩, hsame _ _, ?_⟩
  intro d hd e he
  rcases List.mem_append.mp hd with hd | hd
  · exact hacross (by decide) _ _ d hd e he
  · exact hacross (by decide) _ _ d hd e he

structure Redeclared (m : Manifest) (source name : String) (first second : ClassKind) (s₁ s₂ : Option Span) : Prop where
  bindable : Bindable name
  ordered : first.Precedes second
  first : name ∈ (m.classesOf first).keys
  second : name ∈ (m.classesOf second).keys
  span₁ : s₁ = (keySpans source.toList name)[0]?
  span₂ : s₂ = (keySpans source.toList name)[1]?

theorem redeclared_of_validate {m : Manifest} {source : String} {first second : ClassKind} {s₁ s₂ : Option Span}
    (h : validate source m = .error (.duplicateClass name first second s₁ s₂)) :
    Redeclared m source name first second s₁ s₂ := by
  obtain ⟨v, hv, hreport⟩ := validate_eq_error.mp h
  cases v with
  | nameless | reserved | misspelled | colliding => cases hreport
  | redeclared name' first' second' =>
    cases hreport
    cases hv with
    | ofSymbol _ _ _ _ hv => cases hv
    | ofRoute _ _ _ _ _ hv => cases hv
    | @ofClass before after d v _ hsplit _ hv =>
      cases hv with
      | name hv => cases hv
      | @redeclared e hd hmem heq =>
        have hboth := classes_ordered m
        have he : e ∈ m.classes := hsplit ▸ List.mem_append_left _ hmem
        have hd' : d ∈ m.classes := hsplit ▸ List.mem_append_right _ List.mem_cons_self
        rw [hsplit, List.pairwise_append] at hboth
        exact {
          bindable := hd
          ordered := hboth.2.2 e hmem d List.mem_cons_self heq
          first := heq ▸ name_mem_classesOf he
          second := name_mem_classesOf hd'
          span₁ := rfl
          span₂ := rfl }

theorem decoded_of_duplicate {fileName source : String} {first second : ClassKind} {s₁ s₂ : Option Span}
    (hformat : formatOf fileName = .toml)
    (h : read fileName source = .error (.duplicateClass name first second s₁ s₂)) :
    ∃ s m, Toml.read? source = some s ∧ (schema .toml).decode .toml s.root = .ok m ∧
      Redeclared m source name first second s₁ s₂ := by
  rcases read_eq_error.mp h with ⟨_, -, h⟩ | ⟨m, hdecode, h⟩
  · cases h
  · rw [hformat, decoded, decodeText] at hdecode
    split at hdecode
    · cases hdecode
    · rename_i s hs
      rw [mapError_eq_ok, Source.decode] at hdecode
      obtain ⟨m', hroot, hdecode⟩ := bind_eq_ok.mp hdecode
      split at hdecode
      · cases hdecode
        exact ⟨s, m, hs, hroot, redeclared_of_validate h⟩
      · cases hdecode

structure FirstTwo (source : List Char) (name : String) (l₁ l₂ : Span) : Prop where
  first : StandsAsKey source name l₁
  second : StandsAsKey source name l₂
  ahead : l₁.start < l₂.start
  others : ∀ s, StandsAsKey source name s → s = l₁ ∨ s = l₂ ∨ l₂.start < s.start

theorem exists_firstTwo {s t : Span} (hb : Bindable name) (hs : StandsAsKey source name s)
    (ht : StandsAsKey source name t) (hne : s ≠ t) :
    ∃ l₁ l₂, (keySpans source name)[0]? = some l₁ ∧ (keySpans source name)[1]? = some l₂ ∧
      FirstTwo source name l₁ l₂ := by
  have hname : name ≠ "" := by
    obtain ⟨c, cs, hcs, -⟩ := hb.spelled
    rintro rfl
    cases hcs
  have hmem (span : Span) : span ∈ keySpans source name ↔ StandsAsKey source name span :=
    mem_keySpans hname fun c hc => hb.inIdentifier hc
  have hascending : (keySpans source name).Pairwise fun s t => s.start < t.start := keySpans_ascending
  rw [← hmem] at hs ht
  match hspans : keySpans source name with
  | [] =>
    rw [hspans] at hs
    cases hs
  | [l] =>
    rw [hspans, List.mem_singleton] at hs ht
    exact absurd (hs.trans ht.symm) hne
  | l₁ :: l₂ :: rest =>
    rw [hspans, List.pairwise_cons, List.pairwise_cons] at hascending
    obtain ⟨hfirst, hsecond, -⟩ := hascending
    refine ⟨l₁, l₂, rfl, rfl, ?_⟩
    exact {
      first := (hmem l₁).mp (hspans ▸ List.mem_cons_self)
      second := (hmem l₂).mp (hspans ▸ List.mem_cons_of_mem _ List.mem_cons_self)
      ahead := hfirst l₂ List.mem_cons_self
      others := by
        intro span hspan
        rw [← hmem, hspans, List.mem_cons, List.mem_cons] at hspan
        exact hspan.imp_right (Or.imp_right (hsecond span)) }

theorem StandsAsKey.eq_of_start {s t : Span} (hs : StandsAsKey source name s) (ht : StandsAsKey source name t)
    (h : s.start = t.start) : s = t := by
  obtain ⟨a, _, -, rfl, -⟩ := hs
  obtain ⟨b, _, -, rfl, -⟩ := ht
  have hlen : byteLength a = byteLength b := h
  rw [hlen]

theorem FirstTwo.eq_first {l₁ l₂ : Span} (h : FirstTwo source name l₁ l₂) (hspan : StandsAsKey source name span) :
    span = l₁ ↔ ∀ s, StandsAsKey source name s → span.start ≤ s.start := by
  have := h.ahead
  constructor
  · rintro rfl s hs
    rcases h.others s hs with rfl | rfl | hlater <;> omega
  · intro hleast
    have := hleast l₁ h.first
    refine hspan.eq_of_start h.first ?_
    rcases h.others span hspan with rfl | rfl | hlater <;> omega

theorem FirstTwo.eq_second {l₁ l₂ : Span} (h : FirstTwo source name l₁ l₂) (hspan : StandsAsKey source name span) :
    span = l₂ ↔ ∃! s, StandsAsKey source name s ∧ s.start < span.start := by
  have := h.ahead
  constructor
  · rintro rfl
    refine ⟨l₁, ⟨h.first, h.ahead⟩, ?_⟩
    rintro s ⟨hs, hbefore⟩
    rcases h.others s hs with rfl | rfl | hlater
    · rfl
    · omega
    · omega
  · rintro ⟨s, ⟨hs, hbefore⟩, honly⟩
    rcases h.others span hspan with rfl | rfl | hlater
    · rcases h.others s hs with rfl | rfl | hlater <;> omega
    · rfl
    · -- both places of the labels would be in front
      have h₁ := honly l₁ ⟨h.first, by omega⟩
      have h₂ := honly l₂ ⟨h.second, hlater⟩
      rw [h₁, h₂] at this
      omega

def duplicate? (fileName source : String) : Option (String × ClassKind × ClassKind × Option Span × Option Span) :=
  match read fileName source with
  | .error (.duplicateClass name first second s₁ s₂) => some (name, first, second, s₁, s₂)
  | _ => none

theorem read_of_duplicate? {fileName source name : String} {first second : ClassKind} {s₁ s₂ : Option Span}
    (h : duplicate? fileName source = some (name, first, second, s₁, s₂)) :
    read fileName source = .error (.duplicateClass name first second s₁ s₂) := by
  unfold duplicate? at h
  split at h
  · rename_i hread
    cases h
    exact hread
  · cases h

theorem standsInHeader_of_drop {n : Nat} {back : List Char}
    (hdrop : source.drop n = headerStart kind ++ (name.toList ++ back))
    (hback : back.head? = some ']' ∨ back.head? = some '.')
    (hspan : span = spanAt (byteLength (source.take n ++ headerStart kind)) (byteLength name.toList)) :
    StandsInHeader source kind name span := by
  refine ⟨source.take n, back, ?_, hback, hspan⟩
  rw [← hdrop, List.take_append_drop]

theorem exists_declaredPlainly {source name : String} {cs : List Char} {places : List (ClassKind × Span)}
    (hsource : source = String.ofList cs)
    (hparts : (partsFrom? ⟨0, cs⟩).map (fun parts => (decide (ByHeaders ClassKind.tables parts), headerPlaces parts name))
      = some (true, places))
    (hplaces : ∀ place ∈ places, StandsInHeader cs place.1 name place.2) :
    ∃ parts, DeclaredPlainly source name parts ∧ headerPlaces parts name = places := by
  -- the characters of the text are spelled out, since to compute them takes long
  obtain ⟨parts, hread, hpair⟩ := Option.map_eq_some_iff.mp hparts
  obtain ⟨hby, rfl⟩ := Prod.mk.inj hpair
  have hcs : source.toList = cs := by rw [hsource, String.toList_ofList]
  have hstart : parts? source = some parts := by rw [parts?, Cursor.start, hcs, hread]
  exact ⟨parts, ⟨hstart, of_decide_eq_true hby, hcs ▸ hplaces⟩, rfl⟩

/-- Where classes are declared by headers, one that is declared again is reported with two kinds, in the order of their
sections, and each of them has a header for it. The labels get the first two places of the name as a key. So the first
label is at a header of its kind exactly if there is one with no key of that name in front of it, and the second
exactly if there is one of its kind with just one such key in front of it. -/
theorem duplicate_labels {fileName source : String} {parts : Parts} {first second : ClassKind} {s₁ s₂ : Option Span}
    (hformat : formatOf fileName = .toml) (hplain : DeclaredPlainly source name parts)
    (hread : read fileName source = .error (.duplicateClass name first second s₁ s₂)) :
    first.Precedes second ∧
    (∃ span, (first, span) ∈ headerPlaces parts name) ∧ (∃ span, (second, span) ∈ headerPlaces parts name) ∧
    ∃ l₁ l₂, (Error.duplicateClass name first second s₁ s₂).labels =
        [⟨"first declared here as a " ++ first.name, l₁⟩, ⟨"declared again as a " ++ second.name, l₂⟩] ∧
      FirstTwo source.toList name l₁ l₂ ∧
      ((first, l₁) ∈ headerPlaces parts name ↔ ∃ span, (first, span) ∈ headerPlaces parts name ∧
        ∀ s, StandsAsKey source.toList name s → span.start ≤ s.start) ∧
      ((second, l₂) ∈ headerPlaces parts name ↔ ∃ span, (second, span) ∈ headerPlaces parts name ∧
        ∃! s, StandsAsKey source.toList name s ∧ s.start < span.start) := by
  obtain ⟨s, m, hs, hdecode, hdeclared⟩ := decoded_of_duplicate hformat hread
  obtain ⟨fields, rfl, htraced⟩ := exists_traced hs hplain.read hplain.byHeaders
  obtain ⟨t₁, ht₁⟩ := exists_mem_headerPlaces (named_of_decode htraced hdecode first name hdeclared.first)
  obtain ⟨t₂, ht₂⟩ := exists_mem_headerPlaces (named_of_decode htraced hdecode second name hdeclared.second)
  have hheader {kind : ClassKind} {span : Span} (h : (kind, span) ∈ headerPlaces parts name) :
      StandsInHeader source.toList kind name span := hplain.plain (kind, span) h
  have hkey {kind : ClassKind} {span : Span} (h : (kind, span) ∈ headerPlaces parts name) :
      StandsAsKey source.toList name span := (hheader h).standsAsKey
  have hapart : t₁ ≠ t₂ := by
    rintro rfl
    exact hdeclared.ordered.ne ((hheader ht₁).kind_eq (hheader ht₂))
  obtain ⟨l₁, l₂, hl₁, hl₂, htwo⟩ := exists_firstTwo hdeclared.bindable (hkey ht₁) (hkey ht₂) hapart
  refine ⟨hdeclared.ordered, ⟨t₁, ht₁⟩, ⟨t₂, ht₂⟩, l₁, l₂, ?_, htwo, ?_, ?_⟩
  · rw [hdeclared.span₁, hdeclared.span₂, hl₁, hl₂]
    rfl
  · constructor
    · intro h
      exact ⟨l₁, h, (htwo.eq_first htwo.first).mp rfl⟩
    · rintro ⟨span, hspan, hleast⟩
      exact (htwo.eq_first (hkey hspan)).mpr hleast ▸ hspan
  · constructor
    · intro h
      exact ⟨l₂, h, (htwo.eq_second htwo.second).mp rfl⟩
    · rintro ⟨span, hspan, honce⟩
      exact (htwo.eq_second (hkey hspan)).mpr honce ▸ hspan

def nestedText : String :=
  "[project]\nname = \"x\"\n[components.Shared]\n[components.Shared.host]\nrole = \"main\"\n[modules.Shared]\n"

theorem nested_labels : formatOf "ngwrite.toml" = .toml ∧ ∃ parts, DeclaredPlainly nestedText "Shared" parts ∧
    headerPlaces parts "Shared" = [(.component, ⟨33, 39⟩), (.component, ⟨53, 59⟩), (.module, ⟨89, 95⟩)] ∧
    read "ngwrite.toml" nestedText =
      .error (.duplicateClass "Shared" .component .module (some ⟨33, 39⟩) (some ⟨53, 59⟩)) ∧
    FirstTwo nestedText.toList "Shared" ⟨33, 39⟩ ⟨53, 59⟩ ∧
    ¬∃ span, (.module, span) ∈ headerPlaces parts "Shared" ∧
      ∃! s, StandsAsKey nestedText.toList "Shared" s ∧ s.start < span.start := by
  have hformat : formatOf "ngwrite.toml" = .toml := by decide +kernel
  have hread : read "ngwrite.toml" nestedText =
      .error (.duplicateClass "Shared" .component .module (some ⟨33, 39⟩) (some ⟨53, 59⟩)) :=
    read_of_duplicate? (by decide +kernel)
  obtain ⟨parts, hplain, hplaces⟩ : ∃ parts, DeclaredPlainly nestedText "Shared" parts ∧
      headerPlaces parts "Shared" = [(.component, ⟨33, 39⟩), (.component, ⟨53, 59⟩), (.module, ⟨89, 95⟩)] := by
    refine exists_declaredPlainly rfl (by decide +kernel) ?_
    rw [List.forall_mem_cons, List.forall_mem_cons, List.forall_mem_singleton]
    exact ⟨standsInHeader_of_drop (n := 21) rfl (.inl rfl) (by decide +kernel),
      standsInHeader_of_drop (n := 41) rfl (.inr rfl) (by decide +kernel),
      standsInHeader_of_drop (n := 80) rfl (.inl rfl) (by decide +kernel)⟩
  obtain ⟨-, -, -, l₁, l₂, hlabels, htwo, -, hsecond⟩ := duplicate_labels hformat hplain hread
  have hspans : [⟨33, 39⟩, ⟨53, 59⟩] = [l₁, l₂] := congrArg (List.map Label.span) hlabels
  cases hspans
  refine ⟨hformat, parts, hplain, hplaces, hread, htwo, ?_⟩
  rw [← hsecond, hplaces]
  decide

def swappedText : String :=
  "[project]\nname = \"x\"\n[modules.Shared]\n[components.Shared]\n"

/-- The label for the component is at the header of the module, and the one for the module at that of the component. -/
theorem swapped_labels : ∃ parts, DeclaredPlainly swappedText "Shared" parts ∧ ∃ l₁ l₂,
    read "ngwrite.toml" swappedText =
      .error (.duplicateClass "Shared" .component .module (some l₁) (some l₂)) ∧
    (.module, l₁) ∈ headerPlaces parts "Shared" ∧ (.component, l₁) ∉ headerPlaces parts "Shared" ∧
    (.component, l₂) ∈ headerPlaces parts "Shared" ∧ (.module, l₂) ∉ headerPlaces parts "Shared" := by
  obtain ⟨parts, hplain, hplaces⟩ : ∃ parts, DeclaredPlainly swappedText "Shared" parts ∧
      headerPlaces parts "Shared" = [(.module, ⟨30, 36⟩), (.component, ⟨50, 56⟩)] := by
    refine exists_declaredPlainly rfl (by decide +kernel) ?_
    rw [List.forall_mem_cons, List.forall_mem_singleton]
    exact ⟨standsInHeader_of_drop (n := 21) rfl (.inl rfl) (by decide +kernel),
      standsInHeader_of_drop (n := 38) rfl (.inl rfl) (by decide +kernel)⟩
  refine ⟨parts, hplain, ⟨30, 36⟩, ⟨50, 56⟩, read_of_duplicate? (by decide +kernel), ?_⟩
  rw [hplaces]
  decide

end AngularScaffold.Manifest
