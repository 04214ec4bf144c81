import AngularScaffold.Proofs.Document.TomlSections
import AngularScaffold.Proofs.Manifest.Violations
import AngularScaffold.Proofs.OrderedMap

namespace AngularScaffold

open Document Toml

def ClassKind.table : ClassKind → String
  | component => "components"
  | directive => "directives"
  | module => "modules"

def ClassKind.all : List ClassKind := [component, directive, module]

def ClassKind.Precedes (kind other : ClassKind) : Prop :=
  [kind, other].Sublist all

instance (kind other : ClassKind) : Decidable (kind.Precedes other) :=
  inferInstanceAs (Decidable ([kind, other].Sublist ClassKind.all))

theorem ClassKind.Precedes.ne {kind other : ClassKind} (h : kind.Precedes other) : kind ≠ other := by
  revert h
  cases kind <;> cases other <;> decide

def ClassKind.tables : List String := all.map table

def ClassKind.ofTable? (name : String) : Option ClassKind :=
  all.find? (·.table = name)

theorem ClassKind.ofTable?_eq_some {name : String} {kind : ClassKind} :
    ofTable? name = some kind ↔ name = kind.table := by
  constructor
  · intro h
    have htable := List.find?_some h
    exact (of_decide_eq_true htable).symm
  · rintro rfl
    cases kind <;> decide

theorem ClassKind.table_mem_tables (kind : ClassKind) : kind.table ∈ tables := by
  cases kind <;> decide

def Document.Toml.Header.place? (name : String) (h : Header) : Option (ClassKind × Span) :=
  match h.keys with
  | table :: key :: _ => if key.text = name then (ClassKind.ofTable? table.text).map (·, key.span) else none
  | _ => none

def headerPlaces (parts : Parts) (name : String) : List (ClassKind × Span) :=
  parts.2.filterMap fun s => s.1.place? name

theorem exists_mem_headerPlaces {parts : Parts} {kind : ClassKind} {name : String}
    (h : Named (parts.2.map Prod.fst) kind.table name) : ∃ span, (kind, span) ∈ headerPlaces parts name := by
  obtain ⟨header, hheader, table, key, deeper, hkeys, htable, hkey⟩ := h
  obtain ⟨s, hs, rfl⟩ := List.mem_map.mp hheader
  refine ⟨key.span, List.mem_filterMap.mpr ⟨s, hs, ?_⟩⟩
  rw [Header.place?, hkeys]
  simp only [hkey, if_true, ClassKind.ofTable?_eq_some.mpr htable, Option.map_some]

namespace Document

variable {α φ σ ρ : Type} {item : Decoder α}

theorem keys_eachEntry {fields : Fields} {pairs : List (String × α)} (h : eachEntry item (toEntries fields) = .ok pairs) :
    Pairs.keys pairs = fields.map (·.1.text) := by
  induction fields generalizing pairs with
  | nil =>
    cases h
    rfl
  | cons e fields ih =>
    rw [toEntries, eachEntry] at h
    obtain ⟨x, -, h⟩ := bind_eq_ok.mp h
    obtain ⟨rest, hrest, h⟩ := bind_eq_ok.mp h
    cases h
    rw [Pairs.keys_cons, ih hrest, List.map_cons]

theorem named_of_mapOf {i : Item} {m : OrderedMap α} {headers : List Header} {table : String}
    (h : mapOf item i.toNode = .ok m) (hi : i.Traced headers table) : ∀ name ∈ m.keys, Named headers table name := by
  cases i with
  | value n => exact hi.elim
  | tables span elements => cases h
  | table origin span fields =>
    rw [Item.toNode, mapOf] at h
    obtain ⟨pairs, hpairs, rfl⟩ := map_eq_ok.mp h
    intro name hname
    obtain ⟨p, hp, rfl⟩ := List.mem_map.mp hname
    have hkey : p.1 ∈ Pairs.keys pairs := by
      rcases Pairs.mem_putAll hp with hp | hp
      · exact List.mem_map.mpr ⟨p, hp, rfl⟩
      · cases hp
    rw [keys_eachEntry hpairs] at hkey
    obtain ⟨e, he, htext⟩ := List.mem_map.mp hkey
    rw [← htext]
    exact hi e he

theorem fill_induction [DecidableEq φ] {s : Schema φ σ ρ} {table : Span} {P : σ → Prop} {fields : Fields}
    {seen : List φ} {record filled : σ}
    (hput : ∀ e ∈ fields, ∀ field r r', Pairs.get? e.1.text s.keys = some field →
      s.put field e.2.toNode r = .ok r' → P r → P r')
    (hstart : P record) (h : s.fill table seen record (toEntries fields) = .ok filled) : P filled := by
  induction fields generalizing seen record with
  | nil =>
    cases h
    exact hstart
  | cons e fields ih =>
    obtain ⟨hhead, htail⟩ := List.forall_mem_cons.mp hput
    rw [toEntries, Schema.fill] at h
    split at h
    · cases h
    · rename_i field hfield
      split at h
      · cases h
      · obtain ⟨next, hnext, h⟩ := bind_eq_ok.mp h
        exact ih htail (hhead field record next hfield hnext hstart) h

end Document

namespace Manifest

variable {f : Format} {fields : Fields} {headers : List Header}

def Partial.classesOf (p : Partial) : ClassKind → OrderedMap Config
  | .component => p.components
  | .directive => p.directives
  | .module => p.modules

def Field.ofKind : ClassKind → Field
  | .component => .components
  | .directive => .directives
  | .module => .modules

theorem classesOf_put {field : Field} {n : Node} {p p' : Partial} (h : (schema f).put field n p = .ok p')
    (kind : ClassKind) : p'.classesOf kind = p.classesOf kind ∨
      field = .ofKind kind ∧ mapOf (config f) n = .ok (p'.classesOf kind) := by
  cases field <;> obtain ⟨x, hx, rfl⟩ := map_eq_ok.mp h <;> cases kind <;>
    first
    | exact .inl rfl
    | exact .inr ⟨rfl, hx⟩

theorem key_of_field {k : String} {kind : ClassKind} (h : Pairs.get? k (schema f).keys = some (.ofKind kind)) :
    k = kind.table := by
  have hkeys : (Pairs.keys (schema f).keys).Nodup := by
    have hnames : Pairs.keys (schema f).keys =
        ["project", "symbols", "components", "directives", "modules", "application", "routes"] := rfl
    rw [hnames]
    decide
  have hmem := (Pairs.get?_eq_some hkeys).mp h
  cases kind <;> simpa [schema, Field.ofKind, ClassKind.table] using hmem

theorem classesOf_finish {p : Partial} {m : Manifest} (h : (schema f).finish p = .ok m) (kind : ClassKind) :
    m.classesOf kind = p.classesOf kind := by
  rw [schema] at h
  dsimp only at h
  split at h
  · cases h
    cases kind <;> rfl
  · cases h

theorem named_of_decode {span : Span} {m : Manifest} (ht : Traced ClassKind.tables headers fields)
    (h : (schema f).decode f (.table (toEntries fields) span) = .ok m) :
    ∀ kind, ∀ name ∈ (m.classesOf kind).keys, Named headers kind.table name := by
  rw [Schema.decode] at h
  obtain ⟨p, hfill, h⟩ := bind_eq_ok.mp h
  have hnamed : ∀ kind, ∀ name ∈ (p.classesOf kind).keys, Named headers kind.table name := by
    refine fill_induction (P := fun p : Partial => ∀ kind, ∀ name ∈ (p.classesOf kind).keys,
      Named headers kind.table name) ?_ ?_ hfill
    · intro e he field r r' hfield hput hr kind name hname
      rcases classesOf_put hput kind with hkept | ⟨rfl, hmap⟩
      · exact hr kind name (hkept ▸ hname)
      · have hkey := key_of_field hfield
        have htraced := ht e he (hkey ▸ kind.table_mem_tables)
        exact hkey ▸ named_of_mapOf hmap htraced name hname
    · intro kind name hname
      cases kind <;> cases hname
  split at h
  · rename_i r hfinish
    cases h
    intro kind name hname
    exact hnamed kind name (classesOf_finish hfinish kind ▸ hname)
  · cases h

end Manifest

end AngularScaffold
