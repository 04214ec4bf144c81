import AngularScaffold.Proofs.Expression.Scan

/-!
The free identifiers of an expression by its tokens. The expression is first cut into literals, words and marks;
which words are free is then read off the tokens beside them. Main statement: this is what the scan in one pass
finds, word by word at its place.
-/

namespace AngularScaffold.Expression

open Naming Unicode

/-! ### Cutting a text -/

inductive Lexeme where
  | literal (quote : Char) (inside : List Char)
  | word (first : Char) (more : List Char)
  | blank (c : Char)
  | mark (c : Char)

namespace Lexeme

def chars : Lexeme → List Char
  | literal c cs | word c cs => c :: cs
  | blank c | mark c => [c]

def isBlank : Lexeme → Bool
  | blank _ => true
  | _ => false

def isMark (c : Char) : Lexeme → Bool
  | mark d => d == c
  | _ => false

end Lexeme

def splitLiteral (quote : Char) (hidden : Bool) : List Char → List Char × List Char
  -- the literal ends with the first of its quotes that is not hidden by a backslash, or with the text
  | [] => ([], [])
  | c :: cs =>
    if c = quote ∧ hidden = false then ([c], cs)
    else
      let parts := splitLiteral quote (c == '\\' && !hidden) cs
      (c :: parts.1, parts.2)

theorem splitLiteral_append (quote : Char) (hidden : Bool) (cs : List Char) :
    (splitLiteral quote hidden cs).1 ++ (splitLiteral quote hidden cs).2 = cs := by
  induction cs generalizing hidden with
  | nil => rfl
  | cons c cs ih =>
    rw [splitLiteral]
    split
    · rfl
    · rw [List.cons_append, ih]

theorem splitLiteral_rest (quote : Char) (cs : List Char) :
    (splitLiteral quote false cs).2 = afterQuoted quote cs := by
  fun_induction afterQuoted quote cs with
  | case1 => rfl
  | case2 cs => simp [splitLiteral]
  | case3 hq => simp [splitLiteral, hq]
  | case4 d cs hq ih => simp [splitLiteral, hq, ih]
  | case5 c cs hq hb ih =>
    have hshown : (c == '\\' && !false) = false := by simpa using hb
    rw [splitLiteral, if_neg fun h => hq h.1, hshown]
    exact ih

def lexemes : List Char → List Lexeme
  | [] => []
  | c :: cs =>
    if isQuote c then
      let parts := splitLiteral c false cs
      .literal c parts.1 :: lexemes parts.2
    else if inIdentifier c then .word c (word cs) :: lexemes (afterWord cs)
    else if isWhitespace c then .blank c :: lexemes cs
    else .mark c :: lexemes cs
termination_by cs => cs.length
decreasing_by
  · have := length_afterQuoted_le c cs
    simp only [splitLiteral_rest, List.length_cons]
    omega
  · have := length_afterWord_le cs
    simp only [List.length_cons]
    omega
  · simp
  · simp

theorem flatMap_lexemes (cs : List Char) : (lexemes cs).flatMap Lexeme.chars = cs := by
  fun_induction lexemes cs with
  | case1 => rfl
  | case2 c cs hq parts ih =>
    rw [List.flatMap_cons, ih, Lexeme.chars, List.cons_append, splitLiteral_append]
  | case3 c cs hq hi ih => rw [List.flatMap_cons, ih, Lexeme.chars, List.cons_append, word_append_afterWord]
  | case4 c cs hq hi hw ih => rw [List.flatMap_cons, ih, Lexeme.chars, List.singleton_append]
  | case5 c cs hq hi hw ih => rw [List.flatMap_cons, ih, Lexeme.chars, List.singleton_append]

/-! ### Places -/

structure Token where
  start : Nat
  lexeme : Lexeme

namespace Token

def text (t : Token) : String :=
  String.ofList t.lexeme.chars

def stop (t : Token) : Nat :=
  t.start + t.lexeme.chars.length

end Token

def placed (start : Nat) : List Lexeme → List Token
  | [] => []
  | l :: ls => ⟨start, l⟩ :: placed (start + l.chars.length) ls

theorem le_start_of_mem_placed {n : Nat} {ls : List Lexeme} {t : Token} (h : t ∈ placed n ls) : n ≤ t.start := by
  induction ls generalizing n with
  | nil => cases h
  | cons l ls ih =>
    rcases List.mem_cons.mp h with rfl | h
    · exact Nat.le_refl _
    · exact Nat.le_trans (Nat.le_add_right _ _) (ih h)

theorem placed_ascending (n : Nat) (ls : List Lexeme) : (placed n ls).Pairwise fun t u => t.stop ≤ u.start := by
  induction ls generalizing n with
  | nil => exact .nil
  | cons l ls ih => exact .cons (fun _ hu => le_start_of_mem_placed hu) (ih _)

theorem slice_of_mem_placed {n : Nat} {ls : List Lexeme} {t : Token} (h : t ∈ placed n ls) :
    ((ls.flatMap Lexeme.chars).drop (t.start - n)).take t.lexeme.chars.length = t.lexeme.chars := by
  induction ls generalizing n with
  | nil => cases h
  | cons l ls ih =>
    rw [List.flatMap_cons]
    rcases List.mem_cons.mp h with rfl | h
    · simp
    · have hle := le_start_of_mem_placed h
      have hdrop : t.start - n = l.chars.length + (t.start - (n + l.chars.length)) := by omega
      rw [hdrop, List.drop_length_add_append]
      exact ih h

def tokensFrom (n : Nat) (cs : List Char) : List Token :=
  (placed n (lexemes cs)).filter fun t => !t.lexeme.isBlank

def tokens (expression : String) : List Token :=
  tokensFrom 0 expression.toList

theorem tokensFrom_sublist (n : Nat) (cs : List Char) : (tokensFrom n cs).Sublist (placed n (lexemes cs)) :=
  List.filter_sublist

theorem tokensFrom_nil (n : Nat) : tokensFrom n [] = [] := by
  rw [tokensFrom, lexemes]
  rfl

section Steps

variable {c : Char} {cs : List Char} (n : Nat)

theorem tokensFrom_quote (h : isQuote c = true) : tokensFrom n (c :: cs) =
    ⟨n, .literal c (splitLiteral c false cs).1⟩ ::
      tokensFrom (n + ((splitLiteral c false cs).1.length + 1)) (afterQuoted c cs) := by
  rw [tokensFrom, lexemes, if_pos h, ← splitLiteral_rest]
  rfl

theorem tokensFrom_word (h : inIdentifier c = true) : tokensFrom n (c :: cs) =
    ⟨n, .word c (word cs)⟩ :: tokensFrom (n + ((word cs).length + 1)) (afterWord cs) := by
  rw [tokensFrom, lexemes, if_neg (Bool.not_eq_true _ ▸ isQuote_eq_false h), if_pos h]
  rfl

theorem tokensFrom_blank (hq : isQuote c = false) (hi : inIdentifier c = false) (hw : isWhitespace c = true) :
    tokensFrom n (c :: cs) = tokensFrom (n + 1) cs := by
  rw [tokensFrom, lexemes, if_neg (Bool.not_eq_true _ ▸ hq), if_neg (Bool.not_eq_true _ ▸ hi), if_pos hw]
  rfl

theorem tokensFrom_mark (hq : isQuote c = false) (hi : inIdentifier c = false) (hw : isWhitespace c = false) :
    tokensFrom n (c :: cs) = ⟨n, .mark c⟩ :: tokensFrom (n + 1) cs := by
  rw [tokensFrom, lexemes, if_neg (Bool.not_eq_true _ ▸ hq), if_neg (Bool.not_eq_true _ ▸ hi),
    if_neg (Bool.not_eq_true _ ▸ hw)]
  rfl

end Steps

theorem head?_tokensFrom (n : Nat) (cs : List Char) :
    ((tokensFrom n cs).head?.any fun t => t.lexeme.isMark ':') = ((trimStart cs).head? == some ':') := by
  induction cs generalizing n with
  | nil =>
    rw [tokensFrom_nil]
    rfl
  | cons c cs ih =>
    have hskip : isWhitespace c = false → trimStart (c :: cs) = c :: cs := fun hw =>
      List.dropWhile_cons_of_neg (Bool.not_eq_true _ ▸ hw)
    by_cases hq : isQuote c = true
    · have hcolon : c ≠ ':' := by
        rintro rfl
        exact absurd hq (by decide)
      rw [tokensFrom_quote n hq, hskip (isWhitespace_of_isQuote hq)]
      simpa [Lexeme.isMark] using hcolon
    by_cases hi : inIdentifier c = true
    · have hcolon : c ≠ ':' := by
        rintro rfl
        exact absurd hi (by decide)
      rw [tokensFrom_word n hi, hskip (isWhitespace_eq_false hi)]
      simpa [Lexeme.isMark] using hcolon
    rw [Bool.not_eq_true] at hq hi
    by_cases hw : isWhitespace c = true
    · have htrim : trimStart (c :: cs) = trimStart cs := List.dropWhile_cons_of_pos hw
      rw [tokensFrom_blank n hq hi hw, htrim, ih]
    · rw [Bool.not_eq_true] at hw
      rw [tokensFrom_mark n hq hi hw, hskip hw]
      rfl

/-! ### Free words -/

def Token.isFree (t : Token) (before after : List Token) : Bool :=
  match t.lexeme with
  | .word first more =>
    let member := (before.takeWhile fun u => u.lexeme.isMark '.').length == 1
    let key := (before.head?.all fun u => u.lexeme.isMark '{' || u.lexeme.isMark ',') &&
      after.head?.any fun u => u.lexeme.isMark ':'
    !(member || key || first.isDigit || keywords.contains (String.ofList (first :: more)))
  | _ => false

def freeTokens (before : List Token) : List Token → List Token
  | [] => []
  | t :: after =>
    if t.isFree before after then t :: freeTokens (t :: before) after else freeTokens (t :: before) after

theorem freeTokens_sublist (before ts : List Token) : (freeTokens before ts).Sublist ts := by
  induction ts generalizing before with
  | nil => exact .slnil
  | cons t ts ih =>
    rw [freeTokens]
    split
    · exact (ih _).cons_cons t
    · exact (ih _).cons t

/-! ### The scan by tokens -/

structure Context.Recalls (k : Context) (before : List Token) : Prop where
  none : (k.last == none) = before.isEmpty
  mark : ∀ c, isQuote c = false → inIdentifier c = false →
    (k.last == some c) = before.head?.any fun t => t.lexeme.isMark c
  dots : k.dots = (before.takeWhile fun t => t.lexeme.isMark '.').length

namespace Context.Recalls

variable {k : Context} {before : List Token} {c : Char}

theorem start : Recalls {} [] :=
  ⟨rfl, fun _ _ _ => rfl, rfl⟩

theorem no_mark (hc : isQuote c = true ∨ inIdentifier c = true) (t : Token) (ht : ∀ d, t.lexeme.isMark d = false)
    (before : List Token) : Recalls ⟨some c, 0⟩ (t :: before) := by
  refine ⟨rfl, ?_, ?_⟩
  · intro d hquote hword
    rw [List.head?_cons, Option.any_some, ht]
    have hne : c ≠ d := by
      rintro rfl
      rcases hc with hc | hc
      · rw [hquote] at hc
        cases hc
      · rw [hword] at hc
        cases hc
    simpa using hne
  · rw [List.takeWhile_cons_of_neg (by rw [ht]; exact Bool.false_ne_true)]
    rfl

theorem behind_literal (hc : isQuote c = true) (n : Nat) (inside : List Char) (before : List Token) :
    Recalls ⟨some c, 0⟩ (⟨n, .literal c inside⟩ :: before) :=
  no_mark (.inl hc) _ (fun _ => rfl) before

theorem behind_word (hc : inIdentifier c = true) (n : Nat) (cs : List Char) (before : List Token) :
    Recalls ⟨some ((word cs).getLastD c), 0⟩ (⟨n, .word c (word cs)⟩ :: before) := by
  apply no_mark (.inr ?_) _ (fun _ => rfl) before
  rw [List.getLastD_eq_getLast?]
  cases hlast : (word cs).getLast? with
  | none => exact hc
  | some d => exact List.all_eq_true.mp List.all_takeWhile d (List.mem_of_getLast? hlast)

theorem behind_mark (h : k.Recalls before) (hc : isWhitespace c = false) (n : Nat) :
    (k.after c).Recalls (⟨n, .mark c⟩ :: before) := by
  by_cases hdot : c = '.'
  · subst hdot
    refine ⟨rfl, fun d _ _ => rfl, ?_⟩
    rw [List.takeWhile_cons_of_pos rfl, List.length_cons, ← h.dots]
    rfl
  · rw [Context.after, if_neg hdot, if_neg (Bool.not_eq_true _ ▸ hc)]
    refine ⟨rfl, fun d _ _ => rfl, ?_⟩
    rw [List.takeWhile_cons_of_neg (by simpa [Lexeme.isMark] using hdot)]
    rfl

theorem isMember (h : k.Recalls before) :
    k.isMember = ((before.takeWhile fun t => t.lexeme.isMark '.').length == 1) := by
  rw [Context.isMember, h.mark '.' (by decide) (by decide), h.dots]
  cases before with
  | nil => rfl
  | cons t before =>
    rw [List.head?_cons, Option.any_some, List.takeWhile_cons]
    cases t.lexeme.isMark '.' <;> simp

theorem isKey (h : k.Recalls before) (n : Nat) (rest : List Char) : k.isKey rest =
    ((before.head?.all fun t => t.lexeme.isMark '{' || t.lexeme.isMark ',') &&
      (tokensFrom n rest).head?.any fun t => t.lexeme.isMark ':') := by
  rw [Context.isKey, head?_tokensFrom, h.none, h.mark '{' (by decide) (by decide), h.mark ',' (by decide) (by decide)]
  cases before <;> rfl

theorem isFree (h : k.Recalls before) (n m : Nat) (c : Char) (cs rest : List Char) :
    k.isFree c (String.ofList (c :: cs)) rest =
      (Token.mk n (.word c cs)).isFree before (tokensFrom m rest) := by
  rw [Context.isFree, h.isMember, h.isKey m]
  rfl

end Context.Recalls

theorem freeTokens_other {t : Token} (h : ∀ c cs, t.lexeme ≠ .word c cs) (before after : List Token) :
    freeTokens before (t :: after) = freeTokens (t :: before) after := by
  have hfree : t.isFree before after = false := by
    unfold Token.isFree
    split
    · rename_i c cs hword
      exact absurd hword (h c cs)
    · rfl
  rw [freeTokens, hfree, if_neg Bool.false_ne_true]

theorem identifiersFrom_eq_freeTokens {k : Context} {before : List Token} (h : k.Recalls before) (n : Nat)
    (cs : List Char) : identifiersFrom k cs = (freeTokens before (tokensFrom n cs)).map Token.text := by
  -- each step of the scan leaves a context that recalls one token more, and white space leaves it as it was
  induction cs using scanInduction generalizing k before n with
  | nil =>
    rw [identifiersFrom_nil, tokensFrom_nil]
    rfl
  | quote c cs hq ih =>
    rw [identifiersFrom_quote hq, tokensFrom_quote n hq, freeTokens_other fun _ _ => Lexeme.noConfusion]
    exact ih (.behind_literal hq n _ before) _
  | word c cs hi ih =>
    have hmore := ih (.behind_word hi n cs before) (n + ((word cs).length + 1))
    rw [identifiersFrom_word hi, h.isFree n (n + ((word cs).length + 1)), tokensFrom_word n hi, freeTokens, hmore]
    split
    · rfl
    · rfl
  | mark c cs hq hi ih =>
    rw [identifiersFrom_mark hq hi]
    by_cases hw : isWhitespace c = true
    · rw [tokensFrom_blank n hq hi hw]
      rw [after_of_isWhitespace hw]
      exact ih h _
    · rw [Bool.not_eq_true] at hw
      rw [tokensFrom_mark n hq hi hw, freeTokens_other fun _ _ => Lexeme.noConfusion]
      exact ih (h.behind_mark hw n) _

/-! ### Words at their places -/

def slice (start stop : Nat) (text : String) : String :=
  String.ofList ((text.toList.drop start).take (stop - start))

theorem slice_of_mem_tokens {expression : String} {t : Token} (h : t ∈ tokens expression) :
    slice t.start t.stop expression = t.text := by
  have hslice := slice_of_mem_placed ((tokensFrom_sublist 0 expression.toList).subset h)
  rw [flatMap_lexemes, Nat.sub_zero] at hslice
  rw [slice, Token.stop, Nat.add_sub_cancel_left, hslice, Token.text]

/-- The free identifiers of an expression are the free words among its tokens, each one cut out of the expression at
its place, and the places ascend. -/
theorem identifiers_by_tokens (expression : String) :
    identifiers expression = (freeTokens [] (tokens expression)).map Token.text ∧
    identifiers expression = (freeTokens [] (tokens expression)).map (fun t => slice t.start t.stop expression) ∧
    (freeTokens [] (tokens expression)).Pairwise fun t u => t.stop ≤ u.start := by
  have hwords : identifiers expression = (freeTokens [] (tokens expression)).map Token.text :=
    identifiersFrom_eq_freeTokens .start 0 expression.toList
  have hfree : (freeTokens [] (tokens expression)).Sublist (tokens expression) := freeTokens_sublist _ _
  refine ⟨hwords, ?_, ?_⟩
  · rw [hwords]
    apply List.map_congr_left
    intro t ht
    exact (slice_of_mem_tokens (hfree.subset ht)).symm
  · exact (placed_ascending 0 _).sublist (hfree.trans (tokensFrom_sublist 0 _))

example : (freeTokens [] (tokens "\x7b a: b.c, ...d, 'e\\'': f . . g ? 1h : \"i")).map (fun t => (t.start, t.text)) =
    [(5, "b"), (13, "d"), (23, "f"), (29, "g")] := by
  decide +kernel

end AngularScaffold.Expression
