import AngularScaffold.Naming.Kebab

namespace AngularScaffold.Naming

def sameIgnoringCase (a b : List Char) : Bool :=
  a.map Char.toLower == b.map Char.toLower

def withoutKind (name kind : List Char) : List Char :=
  -- a name that is the kind keeps it
  let cut := name.length - kind.length
  if 0 < cut && sameIgnoringCase (name.drop cut) kind then name.take cut else name

def fileStem (name kind : String) : String :=
  String.ofList (kebabChars (withoutKind name.toList kind.toList)) ++ "." ++ kind

theorem withoutKind_eq_or (name kind : List Char) :
    withoutKind name kind = name ∨
      ∃ suffix, name = withoutKind name kind ++ suffix ∧ sameIgnoringCase suffix kind = true ∧
        withoutKind name kind ≠ [] := by
  unfold withoutKind
  simp only [Bool.and_eq_true, decide_eq_true_eq]
  split
  · rename_i h
    refine Or.inr ⟨name.drop (name.length - kind.length), by simp, h.2, ?_⟩
    intro hn
    have := congrArg List.length hn
    simp only [List.length_take, List.length_nil] at this
    omega
  · exact Or.inl rfl

end AngularScaffold.Naming
