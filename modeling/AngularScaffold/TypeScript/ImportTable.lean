import AngularScaffold.OrderedMap
import AngularScaffold.Text.Bytes

namespace AngularScaffold.TypeScript

structure Import where
  module : String
  symbols : List String
  deriving DecidableEq

def Import.line (i : Import) : String :=
  -- without symbols the module is imported for its effects
  if i.symbols.isEmpty then "import '" ++ i.module ++ "';"
  else "import \x7b " ++ ", ".intercalate i.symbols ++ " \x7d from '" ++ i.module ++ "';"

def insertSymbol (s : String) : List String → List String
  | [] => [s]
  | t :: ts =>
    if s = t then t :: ts
    else if Text.before s t then s :: t :: ts
    else t :: insertSymbol s ts

theorem mem_insertSymbol {s t : String} {ts : List String} :
    t ∈ insertSymbol s ts ↔ t = s ∨ t ∈ ts := by
  induction ts with
  | nil => simp [insertSymbol]
  | cons u us ih =>
    rw [insertSymbol]
    split
    · subst_vars; simp
    · split
      · simp
      · simp only [List.mem_cons, ih]
        constructor
        · rintro (h | h | h) <;> simp [h]
        · rintro (h | h | h) <;> simp [h]

structure ImportTable where
  modules : List (String × List String)

namespace ImportTable

def empty : ImportTable := ⟨[]⟩

def symbols (t : ImportTable) (module : String) : List String :=
  (Pairs.get? module t.modules).getD []

def add (t : ImportTable) (module symbol : String) : ImportTable :=
  ⟨Pairs.put module (insertSymbol symbol (t.symbols module)) t.modules⟩

def addAll (t : ImportTable) (uses : List (String × String)) : ImportTable :=
  uses.foldl (fun t u => t.add u.1 u.2) t

def has (t : ImportTable) (module symbol : String) : Bool :=
  (t.symbols module).contains symbol

def provides (t : ImportTable) (symbol : String) : Bool :=
  t.modules.any fun m => m.2.contains symbol

def imports (t : ImportTable) : List Import :=
  t.modules.map fun m => ⟨m.1, m.2⟩

theorem has_add (t : ImportTable) (m m' s s' : String) :
    (t.add m s).has m' s' = true ↔ (m = m' ∧ s = s') ∨ t.has m' s' = true := by
  simp only [has, symbols, add, Pairs.get?_put, List.contains_iff_mem]
  by_cases h : m = m'
  · subst h
    simp only [if_true, Option.getD_some, mem_insertSymbol, true_and]
    constructor
    · rintro (h | h)
      · exact Or.inl h.symm
      · exact Or.inr h
    · rintro (h | h)
      · exact Or.inl h.symm
      · exact Or.inr h
  · simp [h]

end ImportTable

end AngularScaffold.TypeScript
