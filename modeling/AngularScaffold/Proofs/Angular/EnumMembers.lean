import AngularScaffold.Angular.Property

namespace AngularScaffold.Angular

namespace EnumTable

inductive Selects (t : EnumTable) : Value → String → Prop
  | ordinal {i : Int64} {n : Nat} {member : String} :
      i.toInt = n → t.members[n]? = some member → Selects t (.int i) member
  | name {member : String} : member ∈ t.members → Selects t (.text member) member
  | fullName {member : String} : member ∈ t.members → Selects t (.text (t.qualify member)) member

def refusal (t : EnumTable) (key : String) : Value → PropertyError
  | .int i => .ordinalOutOfRange key t i
  | .text name => .unknownMember key t name
  | v => .notEnumValue key t v.kind

def Unambiguous (t : EnumTable) : Prop :=
  -- no name of a member looks like a full name
  ∀ member ∈ t.members, ¬ (t.name ++ ".").toList <+: member.toList

instance (t : EnumTable) : Decidable t.Unambiguous :=
  List.decidableBAll (fun member : String => ¬ (t.name ++ ".").toList <+: member.toList) t.members

variable {t : EnumTable} {key : String} {value : Value} {member : String}

theorem Selects.mem (h : t.Selects value member) : member ∈ t.members := by
  cases h with
  | ordinal _ hmember => exact List.mem_of_getElem? hmember
  | name hmember => exact hmember
  | fullName hmember => exact hmember

theorem eq_append_of_isPrefixOf? {a b rest : List Char} (h : a.isPrefixOf? b = some rest) : b = a ++ rest := by
  induction a generalizing b with
  | nil => exact Option.some.inj h
  | cons c a ih =>
    cases b with
    | nil => cases h
    | cons d b =>
      change (if c == d then a.isPrefixOf? b else none) = some rest at h
      split at h
      · rename_i hcd
        rw [← eq_of_beq hcd, ih h, List.cons_append]
      · cases h

theorem toList_qualify (t : EnumTable) (member : String) :
    (t.qualify member).toList = (t.name ++ ".").toList ++ member.toList := by
  rw [qualify, String.toList_append]

theorem unqualified_cases (t : EnumTable) (name : String) :
    name = t.qualify (t.unqualified name) ∨ t.unqualified name = name := by
  unfold unqualified
  split
  · rename_i rest hrest
    refine .inl (String.toList_injective ?_)
    rw [toList_qualify, String.toList_ofList, eq_append_of_isPrefixOf? hrest]
  · exact .inr rfl

theorem unqualified_of_mem (ht : t.Unambiguous) (h : member ∈ t.members) : t.unqualified member = member := by
  rcases unqualified_cases t member with hfull | hplain
  · have hprefix : (t.name ++ ".").toList <+: member.toList := by
      rw [hfull, toList_qualify]
      exact List.prefix_append _ _
    exact absurd hprefix (ht member h)
  · exact hplain

theorem memberNamed?_iff {name : String} :
    t.memberNamed? name = some member ↔ member ∈ t.members ∧ t.unqualified name = member := by
  unfold memberNamed?
  constructor
  · intro h
    have hbeq := List.find?_some h
    exact ⟨List.mem_of_find?_eq_some h, (eq_of_beq hbeq).symm⟩
  · rintro ⟨hmember, rfl⟩
    cases hfound : t.members.find? (· == t.unqualified name) with
    | none => exact absurd (beq_self_eq_true _) (List.find?_eq_none.mp hfound _ hmember)
    | some other =>
      have hbeq := List.find?_some hfound
      rw [eq_of_beq hbeq]

theorem memberNamed?_eq_some (ht : t.Unambiguous) {name : String} :
    t.memberNamed? name = some member ↔ t.Selects (.text name) member := by
  rw [memberNamed?_iff]
  constructor
  · rintro ⟨hmember, rfl⟩
    rcases unqualified_cases t name with hfull | hplain
    · have hselects : t.Selects (.text (t.qualify (t.unqualified name))) (t.unqualified name) := .fullName hmember
      rwa [← hfull] at hselects
    · rw [hplain] at hmember ⊢
      exact .name hmember
  · intro h
    refine ⟨h.mem, ?_⟩
    cases h with
    | name hmember => exact unqualified_of_mem ht hmember
    | fullName _ => exact unqualified_qualify t member

theorem member?_eq_some {i : Int64} : t.member? i = some member ↔ t.Selects (.int i) member := by
  unfold member?
  constructor
  · intro h
    split at h
    · rename_i n hn
      exact .ordinal hn h
    · cases h
  · intro h
    cases h with
    | ordinal hn hmember => rw [hn]; exact hmember

def selected? (t : EnumTable) : Value → Option String
  | .int i => t.member? i
  | .text name => t.memberNamed? name
  | _ => none

theorem selected?_eq_some (ht : t.Unambiguous) : t.selected? value = some member ↔ t.Selects value member := by
  cases value with
  | int i => exact member?_eq_some
  | text name => exact memberNamed?_eq_some ht
  | _ => exact ⟨nofun, nofun⟩

theorem selected?_eq_none (ht : t.Unambiguous) : t.selected? value = none ↔ ∀ member, ¬ t.Selects value member := by
  rw [Option.eq_none_iff_forall_ne_some]
  exact forall_congr' fun member => not_congr (selected?_eq_some ht)

theorem render_eq (t : EnumTable) (key : String) (value : Value) : t.render key value =
    match t.selected? value with
    | some member => .ok (t.qualify member)
    | none => .error (t.refusal key value) := by
  cases value <;> rfl

theorem render_eq_ok_iff (ht : t.Unambiguous) {text : String} :
    t.render key value = .ok text ↔ ∃ member, t.Selects value member ∧ text = t.qualify member := by
  rw [render_eq]
  cases hselected : t.selected? value with
  | none =>
    have hnone := (selected?_eq_none ht).mp hselected
    exact ⟨nofun, fun ⟨member, hmember, _⟩ => absurd hmember (hnone member)⟩
  | some member =>
    constructor
    · intro h
      exact ⟨member, (selected?_eq_some ht).mp hselected, (Except.ok.inj h).symm⟩
    · rintro ⟨other, hother, rfl⟩
      obtain rfl := Option.some.inj (hselected.symm.trans ((selected?_eq_some ht).mpr hother))
      rfl

theorem render_eq_error_iff (ht : t.Unambiguous) {e : PropertyError} :
    t.render key value = .error e ↔ (∀ member, ¬ t.Selects value member) ∧ t.refusal key value = e := by
  rw [render_eq, ← selected?_eq_none ht]
  cases t.selected? value <;> simp

theorem render_render (ht : t.Unambiguous) {text : String} (h : t.render key value = .ok text) :
    t.render key (.text text) = .ok text := by
  obtain ⟨member, hselects, rfl⟩ := (render_eq_ok_iff ht).mp h
  exact (render_eq_ok_iff ht).mpr ⟨member, .fullName hselects.mem, rfl⟩

end EnumTable

inductive EnumKey : Shape → String → EnumTable → Prop
  | changeDetection : EnumKey (.ofClass .component) "changeDetection" changeDetectionStrategy
  | encapsulation : EnumKey (.ofClass .component) "encapsulation" viewEncapsulation

theorem enumKey_iff {s : Shape} {key : String} {table : EnumTable} :
    EnumKey s key table ↔ (key, .member table) ∈ s.rules := by
  constructor
  · intro h
    cases h <;> decide
  · intro h
    rcases s with ⟨⟨⟩⟩ | _ <;> simp [Shape.rules] at h
    rcases h with ⟨rfl, rfl⟩ | ⟨rfl, rfl⟩
    · exact .changeDetection
    · exact .encapsulation

theorem EnumKey.unambiguous {s : Shape} {key : String} {table : EnumTable} (h : EnumKey s key table) :
    table.Unambiguous := by
  cases h <;> decide

end AngularScaffold.Angular
