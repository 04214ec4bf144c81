import AngularScaffold.Decimal.Layout
import AngularScaffold.OrderedMap

namespace AngularScaffold

inductive Value where
  | bool (b : Bool)
  | int (i : Int64)
  | float (x : Float)
  | text (s : String)
  | list (items : List Value)
  | map (entries : List (String × Value))

namespace Value

instance : Inhabited Value := ⟨.bool false⟩

def kind : Value → String
  | bool _ => "boolean"
  | int _ => "integer"
  | float _ => "float"
  | text _ => "string"
  | list _ => "list"
  | map _ => "map"

mutual

def write : Value → String
  | bool b => if b then "true" else "false"
  | int i => toString i.toInt
  | float x => Decimal.plain.write x
  | text s => s
  | list items => ",".intercalate (writeItems items)
  | map entries => "\x7b" ++ ", ".intercalate (writeEntries entries) ++ "\x7d"

def writeItems : List Value → List String
  | [] => []
  | v :: vs => v.write :: writeItems vs

def writeEntries : List (String × Value) → List String
  | [] => []
  | (k, v) :: es => (k ++ ": " ++ v.write) :: writeEntries es

end

@[simp] theorem writeItems_eq_map (items : List Value) : writeItems items = items.map write := by
  induction items with
  | nil => rfl
  | cons v vs ih => rw [writeItems, ih, List.map_cons]

@[simp] theorem writeEntries_eq_map (entries : List (String × Value)) :
    writeEntries entries = entries.map fun e => e.1 ++ ": " ++ e.2.write := by
  induction entries with
  | nil => rfl
  | cons e es ih => rw [writeEntries, ih, List.map_cons]

end Value

abbrev Config := OrderedMap Value

end AngularScaffold
