namespace AngularScaffold.Angular

structure EnumTable where
  name : String
  members : List String
  deriving DecidableEq

def changeDetectionStrategy : EnumTable :=
  ⟨"ChangeDetectionStrategy", ["OnPush", "Default"]⟩

def viewEncapsulation : EnumTable :=
  ⟨"ViewEncapsulation", ["Emulated", "Native", "None", "ShadowDom"]⟩

namespace EnumTable

def member? (t : EnumTable) (ordinal : Int64) : Option String :=
  match ordinal.toInt with
  | .ofNat n => t.members[n]?
  | .negSucc _ => none

def qualify (t : EnumTable) (member : String) : String :=
  t.name ++ "." ++ member

def unqualified (t : EnumTable) (name : String) : String :=
  match (t.name ++ ".").toList.isPrefixOf? name.toList with
  | some rest => String.ofList rest
  | none => name

def ordinal? (t : EnumTable) (name : String) : Option Nat :=
  t.members.findIdx? (· == t.unqualified name)

def memberNamed? (t : EnumTable) (name : String) : Option String :=
  t.members.find? (· == t.unqualified name)

def choices (t : EnumTable) : String :=
  ", ".intercalate (t.members.zipIdx.map fun m => toString m.2 ++ " (" ++ m.1 ++ ")")

theorem isPrefixOf?_append (a b : List Char) : a.isPrefixOf? (a ++ b) = some b := by
  induction a with
  | nil => rfl
  | cons c a ih =>
    show (if c == c then a.isPrefixOf? (a ++ b) else none) = some b
    rw [beq_self_eq_true, if_pos rfl, ih]

theorem unqualified_qualify (t : EnumTable) (member : String) :
    t.unqualified (t.qualify member) = member := by
  have h : (t.qualify member).toList = (t.name ++ ".").toList ++ member.toList := by
    simp [qualify]
  rw [unqualified, h, isPrefixOf?_append]
  exact String.ofList_toList

end EnumTable

end AngularScaffold.Angular
