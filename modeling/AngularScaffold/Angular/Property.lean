import AngularScaffold.Angular.PropertyError
import AngularScaffold.Angular.Shape
import AngularScaffold.TypeScript.Literal

namespace AngularScaffold.Angular

open TypeScript

structure Property where
  key : String
  text : String
  deriving DecidableEq

def EnumTable.render (t : EnumTable) (key : String) : Value → Except PropertyError String
  | .int ordinal => match t.member? ordinal with
    | some member => .ok (t.qualify member)
    | none => .error (.ordinalOutOfRange key t ordinal)
  | .text name => match t.memberNamed? name with
    | some member => .ok (t.qualify member)
    | none => .error (.unknownMember key t name)
  | other => .error (.notEnumValue key t other.kind)

def literalOf : Value → String
  -- for keys without a rule
  | .bool b => if b then "true" else "false"
  | .list items => arrayOfTexts (items.map Value.write)
  | other => quote other.write

namespace Shape

def write (s : Shape) (key : String) (value : Value) : Except PropertyError String :=
  -- a value that the rule of its key does not provide for is written as if the key had none
  match s.rule? key, value with
  | some (.member table), value => table.render key value
  | some .textMap, .map entries => .ok (objectOfTexts (entries.map fun e => (e.1, e.2.write)))
  | some .references, .list items => .ok (array (items.map Value.write))
  | _, value => .ok (literalOf value)

def writeEntries (s : Shape) : List (String × Value) → Except PropertyError (List Property)
  | [] => .ok []
  | (key, value) :: rest => do
    let text ← s.write key value
    let properties ← s.writeEntries rest
    .ok (⟨key, text⟩ :: properties)

def properties (s : Shape) (config : Config) : Except PropertyError (List Property) :=
  s.writeEntries config.entries

theorem keys_of_writeEntries {s : Shape} {entries : List (String × Value)} {ps : List Property}
    (h : s.writeEntries entries = .ok ps) : ps.map Property.key = entries.map Prod.fst := by
  induction entries generalizing ps with
  | nil => cases h; rfl
  | cons e rest ih =>
    obtain ⟨key, value⟩ := e
    rw [writeEntries] at h
    cases ht : s.write key value with
    | error e => rw [ht] at h; cases h
    | ok text =>
      cases hr : s.writeEntries rest with
      | error e => rw [ht, hr] at h; cases h
      | ok more =>
        rw [ht, hr] at h
        cases h
        simp [ih hr]

end Shape

end AngularScaffold.Angular
