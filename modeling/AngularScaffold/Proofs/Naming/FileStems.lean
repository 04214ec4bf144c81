import AngularScaffold.Naming.FileStem
import AngularScaffold.Proofs.Text.ByteSplits

namespace AngularScaffold

namespace Naming

open Text

def bytewiseStem? (name kind : String) : Option String := do
  let size := byteLength kind.toList
  let cut := byteLength name.toList - size
  let repeatsKind ←
    if size < byteLength name.toList && isBoundary cut name.toList then
      (fromByte? cut name.toList).map (sameIgnoringCase · kind.toList)
    else some false
  let base ← if repeatsKind then upToByte? cut name.toList else some name.toList
  some (kebab (String.ofList base) ++ "." ++ kind)

theorem utf8Size_eq_one {c : Char} (h : c.toNat ≤ 0x7F) : c.utf8Size = 1 :=
  if_pos h

theorem utf8Size_toLower (c : Char) : c.toLower.utf8Size = c.utf8Size := by
  unfold Char.toLower
  split
  · rename_i hcapital
    have hlast : c.val.toNat ≤ 'Z'.val.toNat := UInt32.le_iff_toNat_le.mp hcapital.2
    have hz : 'Z'.val.toNat = 90 := rfl
    have hsum : (c.val + ('a'.val - 'A'.val)).toNat = c.val.toNat + 32 := by
      have hshift : ('a'.val - 'A'.val).toNat = 32 := rfl
      rw [UInt32.toNat_add, hshift, Nat.mod_eq_of_lt (by omega)]
    rw [utf8Size_eq_one (c := c), utf8Size_eq_one]
    · exact Nat.le_trans (Nat.le_of_eq hsum) (by omega)
    · exact Nat.le_trans hlast (by decide)
  · rfl

theorem byteLength_map_toLower (cs : List Char) : byteLength (cs.map Char.toLower) = byteLength cs := by
  induction cs with
  | nil => rfl
  | cons c cs ih => rw [List.map_cons, byteLength_cons, byteLength_cons, utf8Size_toLower, ih]

variable {suffix kind : List Char}

theorem length_of_sameIgnoringCase (h : sameIgnoringCase suffix kind = true) : suffix.length = kind.length := by
  have hlower := congrArg List.length (beq_iff_eq.mp h)
  rwa [List.length_map, List.length_map] at hlower

theorem byteLength_of_sameIgnoringCase (h : sameIgnoringCase suffix kind = true) :
    byteLength suffix = byteLength kind := by
  have hlower := congrArg byteLength (beq_iff_eq.mp h)
  rwa [byteLength_map_toLower, byteLength_map_toLower] at hlower

structure EndsInKind (name kind base suffix : List Char) : Prop where
  whole : name = base ++ suffix
  nonempty : base ≠ []
  same : sameIgnoringCase suffix kind = true

theorem EndsInKind.withoutKind_eq {name base : List Char} (h : EndsInKind name kind base suffix) :
    withoutKind name kind = base := by
  have hcut : name.length - kind.length = base.length := by
    rw [h.whole, List.length_append, length_of_sameIgnoringCase h.same, Nat.add_sub_cancel]
  have hdrop : name.drop base.length = suffix := by rw [h.whole, List.drop_left]
  have htake : name.take base.length = base := by rw [h.whole, List.take_left]
  simp [withoutKind, hcut, hdrop, htake, h.same, List.length_pos_iff.mpr h.nonempty]

theorem withoutKind_eq_self {name : List Char} (h : ∀ base suffix, ¬EndsInKind name kind base suffix) :
    withoutKind name kind = name := by
  rcases withoutKind_eq_or name kind with hwhole | ⟨suffix, hsplit, hsame, hbase⟩
  · exact hwhole
  · exact absurd ⟨hsplit, hbase, hsame⟩ (h _ suffix)

theorem EndsInKind.bytewiseStem?_eq {name kind : String} {base suffix : List Char}
    (h : EndsInKind name.toList kind.toList base suffix) :
    bytewiseStem? name kind = some (kebab (String.ofList base) ++ "." ++ kind) := by
  have hsize : byteLength name.toList = byteLength base + byteLength kind.toList := by
    rw [h.whole, byteLength_append, byteLength_of_sameIgnoringCase h.same]
  have hlonger : byteLength kind.toList < byteLength name.toList := by
    have := byteLength_pos h.nonempty
    omega
  have hsplit : splitAtByte? (byteLength name.toList - byteLength kind.toList) name.toList = some (base, suffix) := by
    rw [hsize, Nat.add_sub_cancel, h.whole, splitAtByte?_append]
  simp [bytewiseStem?, hlonger, isBoundary, fromByte?, upToByte?, hsplit, h.same]

theorem bytewiseStem?_of_not {name kind : String}
    (h : ∀ base suffix, ¬EndsInKind name.toList kind.toList base suffix) :
    bytewiseStem? name kind = some (kebab name ++ "." ++ kind) := by
  by_cases hlonger : byteLength kind.toList < byteLength name.toList
  · cases hsplit : splitAtByte? (byteLength name.toList - byteLength kind.toList) name.toList with
    | none => simp [bytewiseStem?, isBoundary, hsplit]
    | some p =>
      obtain ⟨hname, hlen⟩ := eq_append_of_splitAtByte? hsplit
      have hbase : p.1 ≠ [] := by
        intro hnil
        rw [hnil, byteLength_nil] at hlen
        omega
      have hother : sameIgnoringCase p.2 kind.toList = false :=
        Bool.eq_false_iff.mpr fun hsame => h p.1 p.2 ⟨hname, hbase, hsame⟩
      simp [bytewiseStem?, hlonger, isBoundary, fromByte?, hsplit, hother]
  · simp [bytewiseStem?, hlonger]

/-- Cutting the kind off by bytes never goes through a character and leads to the stem. The stem is the kebab name of
what stands in front of the kind, if the name ends in the kind behind something else, which it does in one way at
most; otherwise it is the kebab name of the whole. -/
theorem fileStem_base (name kind : String) :
    bytewiseStem? name kind = some (fileStem name kind) ∧
    ∃ base : String, fileStem name kind = kebab base ++ "." ++ kind ∧
      (∀ front suffix, EndsInKind name.toList kind.toList front suffix → base.toList = front) ∧
      ((∀ front suffix, ¬EndsInKind name.toList kind.toList front suffix) → base = name) := by
  have hstem (base : List Char) (h : withoutKind name.toList kind.toList = base) :
      fileStem name kind = kebab (String.ofList base) ++ "." ++ kind := by
    rw [fileStem, h, kebab, String.toList_ofList]
  by_cases hends : ∃ base suffix, EndsInKind name.toList kind.toList base suffix
  · obtain ⟨base, suffix, h⟩ := hends
    rw [h.bytewiseStem?_eq, ← hstem base h.withoutKind_eq]
    refine ⟨rfl, String.ofList base, hstem base h.withoutKind_eq, ?_, fun hnot => absurd h (hnot _ _)⟩
    intro front other hother
    rw [String.toList_ofList, ← h.withoutKind_eq, hother.withoutKind_eq]
  · have hnot : ∀ base suffix, ¬EndsInKind name.toList kind.toList base suffix := by simpa using hends
    have hwhole := hstem name.toList (withoutKind_eq_self hnot)
    rw [String.ofList_toList] at hwhole
    rw [bytewiseStem?_of_not hnot, ← hwhole]
    exact ⟨rfl, name, hwhole, fun front suffix h => absurd h (hnot _ _), fun _ => rfl⟩

theorem bureau_stem : EndsInKind "BüroModuleMODULE".toList "module".toList "BüroModule".toList "MODULE".toList ∧
    fileStem "BüroModuleMODULE" "module" = "büro-module.module" := by
  have hends : EndsInKind "BüroModuleMODULE".toList "module".toList "BüroModule".toList "MODULE".toList :=
    ⟨by decide +kernel, by decide +kernel, by decide +kernel⟩
  obtain ⟨-, base, hstem, hbase, -⟩ := fileStem_base "BüroModuleMODULE" "module"
  have hfront : base = "BüroModule" := String.toList_inj.mp (hbase _ _ hends)
  have hkebab : kebab "BüroModule" = "büro-module" := by decide +kernel
  refine ⟨hends, ?_⟩
  rw [hstem, hfront, hkebab]
  rfl

example : fileStem "Component" "component" = "component.component" ∧ isBoundary 4 "aé€".toList = false ∧
    bytewiseStem? "aé€" "ab" = some "aé€.ab" := by
  decide +kernel

end Naming

end AngularScaffold
