import AngularScaffold.Manifest.Locate
import AngularScaffold.Naming.Identifier
import Mathlib.Data.List.Basic

/-!
The places at which a name stands as a key. Main statements: they are listed from left to right, and though the search
for a name goes on behind each place it has found, it misses no key: what stands in front of a key belongs to no
identifier, so the place before has ended there.
-/

namespace AngularScaffold.Manifest

open Document Naming Text

variable {name : List Char} {skip offset : Nat} {before : Option Char} {cs : List Char}

def lastOr (before : Option Char) (cs : List Char) : Option Char :=
  cs.getLast?.or before

theorem lastOr_cons (before : Option Char) (c : Char) (cs : List Char) :
    lastOr before (c :: cs) = lastOr (some c) cs := by
  rw [lastOr, lastOr, List.getLast?_cons]
  cases cs.getLast? <;> rfl

theorem exists_of_mem_occurrencesFrom {o : Occurrence} (h : o ∈ occurrencesFrom name skip offset before cs) :
    ∃ a b, cs = a ++ (name ++ b) ∧ o = ⟨offset + byteLength a, lastOr before a, b⟩ := by
  induction cs generalizing skip offset before with
  | nil => cases h
  | cons c cs ih =>
    have later {skip : Nat} (h : o ∈ occurrencesFrom name skip (offset + c.utf8Size) (some c) cs) :
        ∃ a b, c :: cs = a ++ (name ++ b) ∧ o = ⟨offset + byteLength a, lastOr before a, b⟩ := by
      obtain ⟨a, b, hcs, ho⟩ := ih h
      refine ⟨c :: a, b, by rw [hcs, List.cons_append], ?_⟩
      rw [ho, byteLength_cons, lastOr_cons, Nat.add_assoc]
    cases skip with
    | succ skip => exact later h
    | zero =>
      rw [occurrencesFrom] at h
      split at h
      · rename_i after hafter
        rcases List.mem_cons.mp h with rfl | h
        · exact ⟨[], after, (List.isPrefixOf?_eq_some_iff_append_eq.mp hafter).symm, rfl⟩
        · exact later h
      · exact later h

theorem mem_occurrencesFrom {a b : List Char} (hname : name ≠ []) (hcs : cs = a ++ (name ++ b))
    (hskip : skip ≤ a.length) (hlast : ∀ c ∈ a.getLast?, c ∉ name) :
    ⟨offset + byteLength a, lastOr before a, b⟩ ∈ occurrencesFrom name skip offset before cs := by
  -- a place is missed only if the name may begin before the end of the place in front of it
  induction cs generalizing skip offset before a with
  | nil =>
    have hnil := List.append_eq_nil_iff.mp (List.append_eq_nil_iff.mp hcs.symm).2
    exact absurd hnil.1 hname
  | cons c cs ih =>
    cases a with
    | nil =>
      obtain rfl : skip = 0 := Nat.le_zero.mp hskip
      have hfound : name.isPrefixOf? (c :: cs) = some b := List.isPrefixOf?_eq_some_iff_append_eq.mpr hcs.symm
      rw [occurrencesFrom, hfound]
      exact List.mem_cons_self
    | cons d a =>
      rw [List.cons_append, List.cons.injEq] at hcs
      obtain ⟨rfl, hcs⟩ := hcs
      have later {skip : Nat} (hskip : skip ≤ a.length) :
          ⟨offset + byteLength (c :: a), lastOr before (c :: a), b⟩ ∈
            occurrencesFrom name skip (offset + c.utf8Size) (some c) cs := by
        have hinner : ∀ x ∈ a.getLast?, x ∉ name := by
          intro x hx
          apply hlast
          rw [List.getLast?_cons, hx]
          rfl
        have hmore : ⟨offset + c.utf8Size + byteLength a, lastOr (some c) a, b⟩ ∈
            occurrencesFrom name skip (offset + c.utf8Size) (some c) cs := ih hcs hskip hinner
        rwa [Nat.add_assoc, ← byteLength_cons, ← lastOr_cons before] at hmore
      cases skip with
      | succ skip => exact later (Nat.le_of_succ_le_succ hskip)
      | zero =>
        rw [occurrencesFrom]
        split
        · rename_i after hafter
          refine List.mem_cons_of_mem _ (later ?_)
          -- a longer name would reach over the last character of `c :: a`
          by_contra hlong
          have hwhole : name ++ after = (c :: a) ++ (name ++ b) := by
            rw [List.isPrefixOf?_eq_some_iff_append_eq.mp hafter, hcs, List.cons_append]
          have hfront : c :: a <+: name := by
            apply List.prefix_of_prefix_length_le (List.prefix_append _ _) (hwhole ▸ List.prefix_append _ _)
            rw [List.length_cons]
            omega
          have hmem := List.getLast?_eq_some_getLast (List.cons_ne_nil c a)
          exact hlast _ hmem (hfront.subset (List.getLast_mem _))
        · exact later (Nat.zero_le _)

theorem occurrencesFrom_ascending :
    (occurrencesFrom name skip offset before cs).Pairwise fun o p => o.offset < p.offset := by
  induction cs generalizing skip offset before with
  | nil => exact .nil
  | cons c cs ih =>
    cases skip with
    | succ skip => exact ih
    | zero =>
      rw [occurrencesFrom]
      split
      · refine .cons ?_ ih
        intro o ho
        obtain ⟨a, b, -, rfl⟩ := exists_of_mem_occurrencesFrom ho
        have := c.utf8Size_pos
        show offset < offset + c.utf8Size + byteLength a
        omega
      · exact ih

theorem Occurrence.before_of_isKey {o : Occurrence} (h : o.isKey = true) :
    ∀ c ∈ o.before, inIdentifier c = false := by
  intro c hc
  have hmark : (c = '.' ∨ c = '[') ∨ (((c = '"' ∨ c = '\'') ∨ c = '\n') ∨ c = ' ') ∨ c = '\t' := by
    rw [Option.mem_def] at hc
    rw [isKey, Bool.or_eq_true] at h
    rcases h with h | h
    · simp only [inHeader, hc, Bool.and_eq_true, Bool.or_eq_true, beq_iff_eq, Option.some_inj] at h
      exact .inl h.1
    · simp only [opensKey, hc, Bool.and_eq_true, Bool.or_eq_true, beq_iff_eq] at h
      exact .inr h.1
  rcases hmark with (rfl | rfl) | (((rfl | rfl) | rfl) | rfl) | rfl <;> decide

variable {source : List Char} {key : String} {span : Span}

def StandsAsKey (source : List Char) (key : String) (span : Span) : Prop :=
  ∃ a b, source = a ++ (key.toList ++ b) ∧ span = spanAt (byteLength a) (byteLength key.toList) ∧
    Occurrence.isKey ⟨byteLength a, a.getLast?, b⟩ = true

theorem lastOr_none (cs : List Char) : lastOr none cs = cs.getLast? :=
  Option.or_none

theorem standsAsKey_of_mem_keySpans (h : span ∈ keySpans source key) : StandsAsKey source key span := by
  unfold keySpans at h
  split at h
  · cases h
  · obtain ⟨o, ho, rfl⟩ := List.mem_map.mp h
    obtain ⟨hmem, hk⟩ := List.mem_filter.mp ho
    obtain ⟨a, b, hsource, rfl⟩ := exists_of_mem_occurrencesFrom hmem
    rw [Nat.zero_add, lastOr_none] at hk ⊢
    exact ⟨a, b, hsource, rfl, hk⟩

theorem mem_keySpans (hne : key ≠ "") (hletters : ∀ c ∈ key.toList, inIdentifier c = true) :
    span ∈ keySpans source key ↔ StandsAsKey source key span := by
  refine ⟨standsAsKey_of_mem_keySpans, ?_⟩
  rintro ⟨a, b, hsource, rfl, hk⟩
  rw [keySpans, if_neg (by simpa using hne), List.mem_map]
  refine ⟨⟨byteLength a, a.getLast?, b⟩, List.mem_filter.mpr ⟨?_, hk⟩, rfl⟩
  have hapart : ∀ c ∈ a.getLast?, c ∉ key.toList := by
    intro c hc hin
    have hout := Occurrence.before_of_isKey hk c hc
    rw [hletters c hin] at hout
    cases hout
  have hmem : ⟨0 + byteLength a, lastOr none a, b⟩ ∈ occurrencesFrom key.toList 0 0 none source :=
    mem_occurrencesFrom (mt String.toList_eq_nil_iff.mp hne) hsource (Nat.zero_le _) hapart
  rwa [Nat.zero_add, lastOr_none] at hmem

theorem keySpans_ascending : (keySpans source key).Pairwise fun s t => s.start < t.start := by
  unfold keySpans
  split
  · exact .nil
  · exact List.pairwise_map.mpr (occurrencesFrom_ascending.filter _)

end AngularScaffold.Manifest
