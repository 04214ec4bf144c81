import AngularScaffold.Manifest.Basic
import AngularScaffold.Naming.Identifier

namespace AngularScaffold.Unicode

theorem exists_of_loweredIn {ms : List Lowering} {n k : Nat} (h : loweredIn ms n = some k) :
    ∃ m ∈ ms, m.run.covers n = true ∧ k = m.target + (n - m.run.first) := by
  induction ms with
  | nil => simp [loweredIn] at h
  | cons m ms ih =>
    rw [loweredIn] at h
    split at h
    · simp at h
    · split at h
      · rename_i hn
        exact ⟨m, by simp, hn, (Option.some.inj h).symm⟩
      · obtain ⟨m', hm, hc⟩ := ih h
        exact ⟨m', List.mem_cons_of_mem _ hm, hc⟩

def Lowering.isSmall (m : Lowering) : Bool :=
  let last := m.target + (m.run.last - m.run.first)
  0x61 ≤ m.target && (last < 0xD800 || (0xDFFF < m.target && last < 0x110000))

theorem lowerings_small : lowerings.all Lowering.isSmall = true := by
  decide

theorem small_of_mem_lowercase {c x : Char} (h : x ∈ lowercase c) : x = c ∨ 0x61 ≤ x.toNat := by
  rw [lowercase] at h
  split at h
  · rcases List.mem_cons.mp h with rfl | h
    · exact Or.inr (by decide)
    · rw [List.mem_singleton] at h
      subst h
      exact Or.inr (by decide)
  · split at h
    · rename_i n hn
      obtain ⟨m, hm, hc, rfl⟩ := exists_of_loweredIn hn
      have hs := List.all_eq_true.mp lowerings_small m hm
      simp only [Lowering.isSmall, Bool.and_eq_true, Bool.or_eq_true, decide_eq_true_eq] at hs
      simp only [Run.covers, Bool.and_eq_true, decide_eq_true_eq] at hc
      have hv : (m.target + (c.toNat - m.run.first)).isValidChar := by
        unfold Nat.isValidChar
        omega
      have hn : (Char.ofNat (m.target + (c.toNat - m.run.first))).toNat = m.target + (c.toNat - m.run.first) := by
        rw [Char.ofNat, dif_pos hv]
        rfl
      rw [List.mem_singleton] at h
      rw [h, hn]
      exact Or.inr (by omega)
    · exact Or.inl (List.mem_singleton.mp h)

end AngularScaffold.Unicode

namespace AngularScaffold.Naming

open Unicode

theorem mem_kebabFrom {fits : Bool} {previous : Option Char} {name : List Char} {x : Char}
    (h : x ∈ kebabFrom fits previous name) :
    x = '-' ∨ ∃ c ∈ name, isSeparator c = false ∧ x ∈ lowercase c := by
  induction name generalizing fits previous with
  | nil => simp [kebabFrom] at h
  | cons c rest ih =>
    have later {fits : Bool} {previous : Option Char} (h : x ∈ kebabFrom fits previous rest) :
        x = '-' ∨ ∃ d ∈ c :: rest, isSeparator d = false ∧ x ∈ lowercase d := by
      rcases ih h with h | ⟨d, hd, hx⟩
      · exact Or.inl h
      · exact Or.inr ⟨d, List.mem_cons_of_mem _ hd, hx⟩
    have here (hs : ¬isSeparator c = true) (h : x ∈ lowercase c ++ kebabFrom true (some c) rest) :
        x = '-' ∨ ∃ d ∈ c :: rest, isSeparator d = false ∧ x ∈ lowercase d := by
      rcases List.mem_append.mp h with h | h
      · exact Or.inr ⟨c, by simp, by simpa using hs, h⟩
      · exact later h
    rw [kebabFrom] at h
    split at h
    · split at h
      · rcases List.mem_cons.mp h with h | h
        · exact Or.inl h
        · exact later h
      · exact later h
    · rename_i hs
      split at h
      · rcases List.mem_cons.mp h with h | h
        · exact Or.inl h
        · exact here hs h
      · exact here hs h

theorem mem_of_mem_kebabChars {name : List Char} {x : Char} (h : x ∈ kebabChars name) (hd : x ≠ '-')
    (hx : x.toNat < 0x61) : x ∈ name := by
  rcases mem_kebabFrom h with h | ⟨c, hc, -, h⟩
  · exact absurd h hd
  · rcases small_of_mem_lowercase h with rfl | h
    · exact hc
    · omega

theorem mem_of_mem_withoutKind {name kind : List Char} {x : Char} (h : x ∈ withoutKind name kind) :
    x ∈ name := by
  rcases withoutKind_eq_or name kind with he | ⟨suffix, he, -⟩
  · rwa [he] at h
  · rw [he]
    exact List.mem_append_left _ h

theorem slash_notMem_fileStem {name kind : String} (hn : '/' ∉ name.toList) (hk : '/' ∉ kind.toList) :
    '/' ∉ (fileStem name kind).toList := by
  intro h
  simp only [fileStem, String.toList_append, String.toList_ofList, List.mem_append] at h
  rcases h with (h | h) | h
  · exact hn (mem_of_mem_withoutKind (mem_of_mem_kebabChars h (by decide) (by decide)))
  · simp at h
  · exact hk h

theorem slash_notInIdentifier : inIdentifier '/' = false := by
  decide

end AngularScaffold.Naming

namespace AngularScaffold

theorem ClassKind.slash_notMem_name (kind : ClassKind) : '/' ∉ kind.name.toList := by
  cases kind <;> decide

theorem Declaration.toList_stem (d : Declaration) :
    ∃ front, d.stem.toList = front ++ '.' :: d.kind.name.toList := by
  refine ⟨Naming.kebabChars (Naming.withoutKind d.name.toList d.kind.name.toList), ?_⟩
  simp [Declaration.stem, Naming.fileStem]

theorem Declaration.getLast?_stem (d : Declaration) :
    d.stem.toList.getLast? = some 't' ∨ d.stem.toList.getLast? = some 'e' := by
  obtain ⟨front, h⟩ := d.toList_stem
  rw [h]
  cases d.kind with
  | component => exact Or.inl (by simp [ClassKind.name])
  | directive => exact Or.inr (by simp [ClassKind.name])
  | module => exact Or.inr (by simp [ClassKind.name])

end AngularScaffold
