import AngularScaffold.Proofs.Manifest.Checked
import AngularScaffold.Proofs.TypeScript.ReadBack
import Mathlib.Data.List.TakeWhile

namespace AngularScaffold.TypeScript

open Naming

def Plain (text : String) : Prop :=
  ∀ c ∈ text.toList, c ≠ '\\' ∧ c ≠ '\'' ∧ c ≠ '\n' ∧ c ≠ '\r'

instance (text : String) : Decidable (Plain text) :=
  List.decidableBAll (fun c => c ≠ '\\' ∧ c ≠ '\'' ∧ c ≠ '\n' ∧ c ≠ '\r') text.toList

theorem escape_of_plain {c : Char} (h : c ≠ '\\' ∧ c ≠ '\'' ∧ c ≠ '\n' ∧ c ≠ '\r') : escape c = [c] := by
  obtain ⟨h₁, h₂, h₃, h₄⟩ := h
  simp [escape, h₁, h₂, h₃, h₄]

theorem quoteChars_of_plain {text : String} (h : Plain text) :
    quoteChars text.toList = '\'' :: (text.toList ++ ['\'']) := by
  have hsame : text.toList.flatMap escape = text.toList.flatMap fun c => [c] :=
    List.flatMap_congr fun c hc => escape_of_plain (h c hc)
  rw [quoteChars, hsame, List.flatMap_singleton']

theorem oneLine_of_plain {text : String} (h : Plain text) : OneLine text :=
  ⟨fun hn => (h _ hn).2.2.1 rfl, fun hr => (h _ hr).2.2.2 rfl⟩

theorem length_of_readBody? {cs text rest : List Char} (h : readBody? cs = some (text, rest)) :
    text.length + rest.length < cs.length := by
  fun_induction readBody? cs generalizing text with
  | case1 => cases h
  | case2 cs =>
    cases h
    simp
  | case3 => cases h
  | case4 => cases h
  | case5 _ _ d cs ih =>
    obtain ⟨e, -, h⟩ := Option.bind_eq_some_iff.mp h
    obtain ⟨p, hp, he⟩ := Option.map_eq_some_iff.mp h
    cases he
    have := ih hp
    simp only [List.length_cons]
    omega
  | case6 c cs _ _ _ ih =>
    obtain ⟨p, hp, he⟩ := Option.map_eq_some_iff.mp h
    cases he
    have := ih hp
    simp only [List.length_cons]
    omega

theorem plain_of_readBody? {text rest : List Char} (h : readBody? (text ++ '\'' :: rest) = some (text, rest)) :
    ∀ c ∈ text, c ≠ '\\' ∧ c ≠ '\'' ∧ c ≠ '\n' ∧ c ≠ '\r' := by
  induction text with
  | nil => simp
  | cons c text ih =>
    have hquote : c ≠ '\'' := by
      rintro rfl
      rw [List.cons_append, readBody?.eq_def] at h
      simp at h
    have hbreak : ¬(c = '\n' ∨ c = '\r') := by
      intro hc
      rw [List.cons_append, readBody?.eq_def] at h
      simp [hquote, hc] at h
    have hslash : c ≠ '\\' := by
      rintro rfl
      -- the escape takes two characters for the one that it gives
      obtain ⟨d, cs, hsplit⟩ : ∃ d cs, text ++ '\'' :: rest = d :: cs :=
        List.exists_cons_of_ne_nil (by simp)
      rw [List.cons_append, hsplit, readBody?.eq_def] at h
      simp only [Char.reduceEq, decide_false, Bool.or_self, Bool.false_eq_true, if_false, if_true] at h
      obtain ⟨e, -, h⟩ := Option.bind_eq_some_iff.mp h
      obtain ⟨p, hp, he⟩ := Option.map_eq_some_iff.mp h
      simp only [Prod.mk.injEq, List.cons.injEq] at he
      have hshort := length_of_readBody? hp
      have hlength := congrArg List.length hsplit
      simp only [List.length_append, List.length_cons] at hlength
      rw [he.1.2, he.2] at hshort
      omega
    rw [List.cons_append, readBody?.eq_def] at h
    simp only [hquote, hslash, hbreak, if_false, Bool.or_eq_true, decide_eq_true_eq] at h
    obtain ⟨p, hp, he⟩ := Option.map_eq_some_iff.mp h
    simp only [Prod.mk.injEq, List.cons.injEq, true_and] at he
    have hmore := ih (by rw [hp, ← he.1, ← he.2])
    rw [not_or] at hbreak
    exact List.forall_mem_cons.mpr ⟨⟨hslash, hquote, hbreak⟩, hmore⟩

theorem readText?_between_quotes {text : String} {rest : List Char} :
    readText? ('\'' :: (text.toList ++ '\'' :: rest)) = some (text, rest) ↔ Plain text := by
  constructor
  · intro h
    obtain ⟨p, hp, he⟩ := Option.map_eq_some_iff.mp h
    obtain ⟨rfl, rfl⟩ := Prod.mk.inj he
    have hbody : readBody? (p.1 ++ '\'' :: p.2) = some (p.1, p.2) := by
      rwa [String.toList_ofList] at hp
    intro c hc
    rw [String.toList_ofList] at hc
    exact plain_of_readBody? hbody c hc
  · intro h
    have hquoted := readText?_quote text rest
    rw [toList_quote, quoteChars_of_plain h] at hquoted
    simpa using hquoted

def EndsName (rest : List Char) : Prop :=
  ∀ c ∈ rest.head?, inIdentifier c = false

theorem endsName_cons {c : Char} (rest : List Char) (h : inIdentifier c = false) : EndsName (c :: rest) := by
  intro d hd
  cases hd
  exact h

def readName? (cs : List Char) : Option (String × List Char) :=
  match word cs with
  | [] => none
  | c :: w => if startsIdentifier c then some (String.ofList (c :: w), afterWord cs) else none

theorem word_append_of_forall {cs rest : List Char} (hcs : ∀ c ∈ cs, inIdentifier c = true)
    (hrest : EndsName rest) : word (cs ++ rest) = cs ∧ afterWord (cs ++ rest) = rest := by
  have hnone : word rest = [] := by
    cases rest with
    | nil => rfl
    | cons d rest => exact List.takeWhile_cons_of_neg (Bool.not_eq_true _ ▸ hrest d rfl)
  have hword : word (cs ++ rest) = cs := by
    rw [word, List.takeWhile_append_of_pos hcs]
    exact (congrArg (cs ++ ·) hnone).trans (List.append_nil cs)
  have hwhole := word_append_afterWord (cs ++ rest)
  rw [hword] at hwhole
  exact ⟨hword, List.append_cancel_left hwhole⟩

theorem endsName_afterWord (cs : List Char) : EndsName (afterWord cs) := by
  intro c hc
  have h := List.head?_dropWhile_not inIdentifier cs
  rw [show (cs.dropWhile inIdentifier).head? = some c from hc] at h
  exact h

theorem readName?_eq_some {cs rest : List Char} {name : String} : readName? cs = some (name, rest) ↔
    nameFault? name = none ∧ cs = name.toList ++ rest ∧ EndsName rest := by
  unfold readName?
  constructor
  · intro h
    split at h
    · cases h
    · rename_i c w hword
      split at h
      · rename_i hstart
        cases h
        have hw : ∀ x ∈ w, inIdentifier x = true := by
          intro x hx
          have hmem : x ∈ word cs := hword ▸ List.mem_cons_of_mem c hx
          exact List.mem_takeWhile_imp hmem
        refine ⟨nameFault?_eq_none.mpr ⟨c, w, String.toList_ofList, hstart, hw⟩, ?_, endsName_afterWord cs⟩
        rw [String.toList_ofList, ← hword, word_append_afterWord]
      · cases h
  · rintro ⟨hname, rfl, hrest⟩
    obtain ⟨c, w, hchars, hstart, hw⟩ := nameFault?_eq_none.mp hname
    have hall : ∀ x ∈ name.toList, inIdentifier x = true := by
      rw [hchars]
      exact List.forall_mem_cons.mpr ⟨inIdentifier_of_starts hstart, hw⟩
    obtain ⟨hword, hafter⟩ := word_append_of_forall hall hrest
    rw [hword, hafter, hchars]
    simp only [hstart, if_true, ← hchars, String.ofList_toList]

end AngularScaffold.TypeScript
