import AngularScaffold.Expression.Identifiers
import AngularScaffold.TypeScript.Literal
import Mathlib.Data.List.TakeWhile

/-!
The free identifiers of expressions that are put together. Main statements: texts that close their literals
can be scanned one by one if what stands between them ends a word and starts afresh, and what stands in front
of a text matters only to a key at its beginning.
-/

namespace AngularScaffold.Expression

open Naming TypeScript Unicode

/-! ### Characters -/

theorem isQuote_cases {c : Char} (h : isQuote c = true) : (c = '\'' ∨ c = '"') ∨ c = Char.ofNat 0x60 := by
  simpa [isQuote] using h

theorem isQuote_eq_false {c : Char} (h : inIdentifier c = true) : isQuote c = false := by
  rw [Bool.eq_false_iff]
  intro hq
  rcases isQuote_cases hq with (rfl | rfl) | rfl <;> exact absurd h (by decide)

theorem isWhitespace_of_isQuote {c : Char} (h : isQuote c = true) : isWhitespace c = false := by
  rcases isQuote_cases h with (rfl | rfl) | rfl <;> decide

theorem isWhitespace_eq_false {c : Char} (h : inIdentifier c = true) : isWhitespace c = false := by
  rw [Bool.eq_false_iff]
  intro hw
  obtain ⟨r, hr, hc⟩ := exists_of_covered hw
  have hmem : c.toNat ∈ List.range' r.first (r.last + 1 - r.first) := by
    simp only [Run.covers, Bool.and_eq_true, decide_eq_true_eq] at hc
    rw [List.mem_range'_1]
    omega
  have hall : ∀ r ∈ whitespaceRuns, ∀ n ∈ List.range' r.first (r.last + 1 - r.first),
      inIdentifier (Char.ofNat n) = false := by decide +kernel
  have hnot := hall r hr _ hmem
  rw [Char.ofNat_toNat, h] at hnot
  cases hnot

theorem inIdentifier_of_isWhitespace {c : Char} (h : isWhitespace c = true) : inIdentifier c = false := by
  rw [Bool.eq_false_iff]
  intro hi
  rw [isWhitespace_eq_false hi] at h
  cases h

theorem isQuote_of_isWhitespace {c : Char} (h : isWhitespace c = true) : isQuote c = false := by
  rw [Bool.eq_false_iff]
  intro hq
  rw [isWhitespace_of_isQuote hq] at h
  cases h

/-! ### One step of the scan -/

variable {k k' : Context} {c : Char} {cs : List Char}

theorem after_of_isWhitespace (h : isWhitespace c = true) (k : Context) : k.after c = k := by
  have hdot : c ≠ '.' := by
    rintro rfl
    exact absurd h (by decide)
  rw [Context.after, if_neg hdot, if_pos h]

theorem identifiersFrom_nil (k : Context) : identifiersFrom k [] = [] := by
  rw [identifiersFrom]

theorem identifiersFrom_quote (h : isQuote c = true) :
    identifiersFrom k (c :: cs) = identifiersFrom ⟨some c, 0⟩ (afterQuoted c cs) := by
  rw [identifiersFrom, if_pos h]

theorem identifiersFrom_word (h : inIdentifier c = true) : identifiersFrom k (c :: cs) =
    (if k.isFree c (String.ofList (c :: word cs)) (afterWord cs) then [String.ofList (c :: word cs)] else []) ++
      identifiersFrom ⟨some ((word cs).getLastD c), 0⟩ (afterWord cs) := by
  rw [identifiersFrom, if_neg (Bool.not_eq_true _ ▸ isQuote_eq_false h), if_pos h]
  show (if _ then _ else _) = _
  split
  · rw [List.singleton_append]
  · rw [List.nil_append]

theorem identifiersFrom_mark (hq : isQuote c = false) (hi : inIdentifier c = false) :
    identifiersFrom k (c :: cs) = identifiersFrom (k.after c) cs := by
  rw [identifiersFrom, if_neg (Bool.not_eq_true _ ▸ hq), if_neg (Bool.not_eq_true _ ▸ hi)]

@[elab_as_elim]
theorem scanInduction {motive : List Char → Prop} (nil : motive [])
    (quote : ∀ c cs, isQuote c = true → motive (afterQuoted c cs) → motive (c :: cs))
    (word : ∀ c cs, inIdentifier c = true → motive (afterWord cs) → motive (c :: cs))
    (mark : ∀ c cs, isQuote c = false → inIdentifier c = false → motive cs → motive (c :: cs))
    (cs : List Char) : motive cs := by
  fun_induction identifiersFrom {} cs with
  | case1 => exact nil
  | case2 _ c cs hq ih => exact quote c cs hq ih
  | case3 _ c cs _ hi _ _ _ ih => exact word c cs hi ih
  | case4 _ c cs _ hi _ _ _ ih => exact word c cs hi ih
  | case5 _ c cs hq hi ih => exact mark c cs (Bool.eq_false_iff.mpr hq) (Bool.eq_false_iff.mpr hi) ih

theorem afterQuoted_close (quote : Char) (cs : List Char) : afterQuoted quote (quote :: cs) = cs := by
  cases cs <;> simp [afterQuoted]

theorem afterQuoted_escape {quote : Char} (h : '\\' ≠ quote) (c : Char) (cs : List Char) :
    afterQuoted quote ('\\' :: c :: cs) = afterQuoted quote cs := by
  simp [afterQuoted, h]

theorem afterQuoted_inside {quote : Char} (hq : c ≠ quote) (hb : c ≠ '\\') (cs : List Char) :
    afterQuoted quote (c :: cs) = afterQuoted quote cs := by
  cases cs <;> simp [afterQuoted, hq, hb]

/-! ### Literals that are closed -/

def openQuote? : Option Char → List Char → Option Char
  -- the text starts inside the literal of `quote?`, if in any
  | none, [] => none
  | none, c :: cs => openQuote? (if isQuote c then some c else none) cs
  | some quote, [] => some quote
  | some quote, c :: cs =>
    if c = quote then openQuote? none cs
    else if c = '\\' then
      match cs with
      | [] => some quote
      | _ :: cs => openQuote? (some quote) cs
    else openQuote? (some quote) cs

def Closed (expression : String) : Prop :=
  openQuote? none expression.toList = none

instance (expression : String) : Decidable (Closed expression) :=
  inferInstanceAs (Decidable (_ = _))

theorem openQuote?_quote (h : isQuote c = true) : openQuote? none (c :: cs) = openQuote? (some c) cs := by
  rw [openQuote?, if_pos h]

theorem openQuote?_mark (h : isQuote c = false) : openQuote? none (c :: cs) = openQuote? none cs := by
  rw [openQuote?, if_neg (Bool.not_eq_true _ ▸ h)]

theorem openQuote?_close (quote : Char) (cs : List Char) :
    openQuote? (some quote) (quote :: cs) = openQuote? none cs := by
  cases cs <;> simp [openQuote?]

theorem openQuote?_escape {quote : Char} (h : '\\' ≠ quote) (c : Char) (cs : List Char) :
    openQuote? (some quote) ('\\' :: c :: cs) = openQuote? (some quote) cs := by
  simp [openQuote?, h]

theorem openQuote?_inside {quote : Char} (hq : c ≠ quote) (hb : c ≠ '\\') (cs : List Char) :
    openQuote? (some quote) (c :: cs) = openQuote? (some quote) cs := by
  cases cs <;> simp [openQuote?, hq, hb]

theorem openQuote?_afterWord (cs : List Char) : openQuote? none (afterWord cs) = openQuote? none cs := by
  induction cs with
  | nil => rfl
  | cons c cs ih =>
    unfold afterWord at ih ⊢
    by_cases h : inIdentifier c = true
    · rw [List.dropWhile_cons_of_pos h, openQuote?_mark (isQuote_eq_false h), ih]
    · rw [List.dropWhile_cons_of_neg h]

theorem openQuote?_append {quote? : Option Char} {cs : List Char} (h : openQuote? quote? cs = none) (e : List Char) :
    openQuote? quote? (cs ++ e) = openQuote? none e := by
  fun_induction openQuote? quote? cs with
  | case1 => rfl
  | case2 c cs ih => exact ih h
  | case3 => cases h
  | case4 _ cs ih =>
    rw [List.cons_append, openQuote?_close]
    exact ih h
  | case5 => cases h
  | case6 quote d cs hq ih =>
    rw [List.cons_append, List.cons_append, openQuote?_escape hq]
    exact ih h
  | case7 quote c cs hq hb ih =>
    rw [List.cons_append, openQuote?_inside hq hb]
    exact ih h

theorem Closed.append {a b : String} (ha : Closed a) (hb : Closed b) : Closed (a ++ b) := by
  rw [Closed, String.toList_append, openQuote?_append ha]
  exact hb

theorem Closed.intercalate {separator : String} (hs : Closed separator) {texts : List String}
    (h : ∀ t ∈ texts, Closed t) : Closed (separator.intercalate texts) := by
  induction texts with
  | nil => rfl
  | cons t texts ih =>
    obtain ⟨ht, hmore⟩ := List.forall_mem_cons.mp h
    cases texts with
    | nil => rwa [String.intercalate_singleton]
    | cons u texts =>
      rw [String.intercalate_cons_cons]
      exact (ht.append hs).append (ih hmore)

theorem afterQuoted_append {quote : Char} {cs : List Char} (h : openQuote? (some quote) cs = none)
    (e : List Char) :
    afterQuoted quote (cs ++ e) = afterQuoted quote cs ++ e ∧ openQuote? none (afterQuoted quote cs) = none := by
  fun_induction afterQuoted quote cs with
  | case1 => cases h
  | case2 cs =>
    rw [openQuote?_close] at h
    rw [List.cons_append, afterQuoted_close]
    exact ⟨rfl, h⟩
  | case3 hq =>
    rw [openQuote?, if_neg hq, if_pos rfl] at h
    cases h
  | case4 d cs hq ih =>
    rw [openQuote?_escape hq] at h
    rw [List.cons_append, List.cons_append, afterQuoted_escape hq]
    exact ih h
  | case5 c cs hq hb ih =>
    rw [openQuote?_inside hq hb] at h
    rw [List.cons_append, afterQuoted_inside hq hb]
    exact ih h

/-! ### Texts one after the other -/

def Apart (a b : List Char) : Prop :=
  ∀ c ∈ a.getLast?, ∀ d ∈ b.head?, inIdentifier c = true → inIdentifier d = false

def startsWithColon (cs : List Char) : Bool :=
  (trimStart cs).head? == some ':'

variable {e : List Char}

theorem Apart.of_append {a b : List Char} (h : Apart (a ++ b) e) : Apart b e := by
  intro c hc
  apply h c
  rw [List.getLast?_append, hc]
  rfl

theorem Apart.of_head {a : List Char} (h : ∀ d ∈ e.head?, inIdentifier d = false) : Apart a e :=
  fun _ _ d hd _ => h d hd

theorem apart_nil (a : List Char) : Apart a [] :=
  .of_head fun _ hd => nomatch hd

theorem Apart.endsWord (h : Apart (c :: cs) e) (hi : inIdentifier c = true) (hend : afterWord cs = []) :
    ∀ d ∈ e.head?, inIdentifier d = false := by
  have hall : ∀ x ∈ c :: cs, inIdentifier x = true :=
    List.forall_mem_cons.mpr ⟨hi, List.dropWhile_eq_nil_iff.mp hend⟩
  have hlast := List.getLast?_eq_some_getLast (List.cons_ne_nil c cs)
  intro d hd
  exact h _ hlast d hd (hall _ (List.getLast_mem _))

theorem word_append (he : afterWord cs = [] → ∀ d ∈ e.head?, inIdentifier d = false) :
    word (cs ++ e) = word cs := by
  unfold word
  induction cs with
  | nil =>
    cases e with
    | nil => rfl
    | cons d e =>
      have hd := he rfl d rfl
      rw [List.nil_append, List.takeWhile_cons_of_neg (Bool.not_eq_true _ ▸ hd), List.takeWhile_nil]
  | cons c cs ih =>
    by_cases hc : inIdentifier c = true
    · have hrest : afterWord (c :: cs) = afterWord cs := List.dropWhile_cons_of_pos hc
      rw [List.cons_append, List.takeWhile_cons_of_pos hc, List.takeWhile_cons_of_pos hc, ih (hrest ▸ he)]
    · rw [List.cons_append, List.takeWhile_cons_of_neg hc, List.takeWhile_cons_of_neg hc]

theorem afterWord_append (he : afterWord cs = [] → ∀ d ∈ e.head?, inIdentifier d = false) :
    afterWord (cs ++ e) = afterWord cs ++ e := by
  have hwhole := word_append_afterWord (cs ++ e)
  rw [word_append he] at hwhole
  have hparts : word cs ++ (afterWord cs ++ e) = cs ++ e := by
    rw [← List.append_assoc, word_append_afterWord]
  exact List.append_cancel_left (hwhole.trans hparts.symm)

theorem startsWithColon_append {e' : List Char} (h : startsWithColon e = startsWithColon e') (cs : List Char) :
    startsWithColon (cs ++ e) = startsWithColon (cs ++ e') := by
  unfold startsWithColon trimStart at *
  rw [List.dropWhile_append, List.dropWhile_append]
  split
  · exact h
  · rename_i hne
    obtain ⟨c, rest, hcs⟩ := List.exists_cons_of_ne_nil fun hnil => hne (List.isEmpty_iff.mpr hnil)
    rw [hcs]
    rfl

theorem isFree_append {e' : List Char} (h : startsWithColon e = startsWithColon e') (k : Context) (c : Char)
    (w : String) (cs : List Char) : k.isFree c w (cs ++ e) = k.isFree c w (cs ++ e') := by
  -- of what follows a word, the scan only sees whether it is a colon
  have hcolon := startsWithColon_append h cs
  unfold startsWithColon at hcolon
  rw [Context.isFree, Context.isFree, Context.isKey, Context.isKey, hcolon]

theorem afterQuoted_suffix (quote : Char) (cs : List Char) : afterQuoted quote cs <:+ cs := by
  fun_induction afterQuoted quote cs with
  | case1 => exact List.suffix_refl _
  | case2 => exact List.suffix_cons _ _
  | case3 => exact List.nil_suffix
  | case4 d cs hq ih => exact ih.trans ((List.suffix_cons _ _).trans (List.suffix_cons _ _))
  | case5 c cs hq hb ih => exact ih.trans (List.suffix_cons _ _)

theorem exists_run {cs : List Char} (hcs : openQuote? none cs = none) (k : Context) (colon : Bool) :
    ∃ words k', ∀ e, Apart cs e → startsWithColon e = colon →
      identifiersFrom k (cs ++ e) = words ++ identifiersFrom k' e := by
  -- all that the run can see of `e` is whether a colon comes first
  induction cs using scanInduction generalizing k with
  | nil => exact ⟨[], k, fun e _ _ => rfl⟩
  | quote c cs hq ih =>
    rw [openQuote?_quote hq] at hcs
    obtain ⟨words, k', hrun⟩ := ih (afterQuoted_append hcs []).2 ⟨some c, 0⟩
    refine ⟨words, k', fun e he hcolon => ?_⟩
    obtain ⟨front, hfront⟩ := afterQuoted_suffix c cs
    have hapart : Apart ((c :: front) ++ afterQuoted c cs) e := by rwa [List.cons_append, hfront]
    rw [List.cons_append, identifiersFrom_quote hq, (afterQuoted_append hcs e).1]
    exact hrun e hapart.of_append hcolon
  | word c cs hi ih =>
    rw [openQuote?_mark (isQuote_eq_false hi), ← openQuote?_afterWord] at hcs
    obtain ⟨words, k', hrun⟩ := ih hcs ⟨some ((word cs).getLastD c), 0⟩
    -- a colon in front stands for all that goes on with one
    let next := if colon then [':'] else []
    have hnext : startsWithColon next = colon := by cases colon <;> decide
    refine ⟨(if k.isFree c (String.ofList (c :: word cs)) (afterWord cs ++ next) then
      [String.ofList (c :: word cs)] else []) ++ words, k', fun e he hcolon => ?_⟩
    have hend := he.endsWord hi
    have hapart : Apart ((c :: word cs) ++ afterWord cs) e := by rwa [List.cons_append, word_append_afterWord]
    rw [List.cons_append, identifiersFrom_word hi, word_append hend, afterWord_append hend,
      isFree_append (hcolon.trans hnext.symm), hrun e hapart.of_append hcolon, List.append_assoc]
  | mark c cs hq hi ih =>
    rw [openQuote?_mark hq] at hcs
    obtain ⟨words, k', hrun⟩ := ih hcs (k.after c)
    refine ⟨words, k', fun e he hcolon => ?_⟩
    have hapart : Apart ([c] ++ cs) e := he
    rw [List.cons_append, identifiersFrom_mark hq hi]
    exact hrun e hapart.of_append hcolon

/-- What may follow a scanned text: it ends a word, is no colon, and the scan of it forgets what came before. -/
structure Separates (e : List Char) : Prop where
  endsWord : ∀ c ∈ e.head?, inIdentifier c = false
  noColon : (trimStart e).head? ≠ some ':'
  fresh : ∀ k k' : Context, identifiersFrom k e = identifiersFrom k' e

theorem identifiersFrom_append {cs : List Char} (hcs : openQuote? none cs = none) (he : Separates e) (k : Context) :
    identifiersFrom k (cs ++ e) = identifiersFrom k cs ++ identifiersFrom {} e := by
  obtain ⟨words, k', hrun⟩ := exists_run hcs k false
  have hwhole := hrun e (.of_head he.endsWord) (beq_eq_false_iff_ne.mpr he.noColon)
  have hpart := hrun [] (apart_nil cs) rfl
  rw [List.append_nil, identifiersFrom_nil, List.append_nil] at hpart
  rw [hwhole, hpart, he.fresh k' {}]

/-! ### What stands in front of a text -/

theorem identifiersFrom_congr (hdots : k.dots = k'.dots) (hfree : ∀ c rest, trimStart cs = c :: rest →
    inIdentifier c = true → k.isFree c (String.ofList (c :: word rest)) (afterWord rest) =
      k'.isFree c (String.ofList (c :: word rest)) (afterWord rest)) :
    identifiersFrom k cs = identifiersFrom k' cs := by
  induction cs with
  | nil => rw [identifiersFrom_nil, identifiersFrom_nil]
  | cons c cs ih =>
    by_cases hq : isQuote c = true
    · rw [identifiersFrom_quote hq, identifiersFrom_quote hq]
    by_cases hi : inIdentifier c = true
    · have htrim : trimStart (c :: cs) = c :: cs :=
        List.dropWhile_cons_of_neg (Bool.not_eq_true _ ▸ isWhitespace_eq_false hi)
      rw [identifiersFrom_word hi, identifiersFrom_word hi, hfree c cs htrim hi]
    rw [Bool.not_eq_true] at hq hi
    rw [identifiersFrom_mark hq hi, identifiersFrom_mark hq hi]
    by_cases hdot : c = '.'
    · rw [Context.after, Context.after, if_pos hdot, if_pos hdot, hdots]
    by_cases hw : isWhitespace c = true
    · have htrim : trimStart (c :: cs) = trimStart cs := List.dropWhile_cons_of_pos hw
      rw [after_of_isWhitespace hw, after_of_isWhitespace hw]
      exact ih (htrim ▸ hfree)
    · rw [Context.after, Context.after, if_neg hdot, if_neg hdot, if_neg hw, if_neg hw]

theorem identifiersFrom_comma (cs : List Char) : identifiersFrom ⟨some ',', 0⟩ cs = identifiersFrom {} cs := by
  apply identifiersFrom_congr
  · rfl
  · intro c rest _ _
    simp [Context.isFree, Context.isMember, Context.isKey]

def startsWithKey (expression : String) : Bool :=
  match trimStart expression.toList with
  | [] => false
  | c :: cs => inIdentifier c && !c.isDigit && (trimStart (afterWord cs)).head? == some ':'

theorem identifiersFrom_inside {expression : String} (h : startsWithKey expression = false) (hdots : k.dots = 0) :
    identifiersFrom k expression.toList = identifiers expression := by
  apply identifiersFrom_congr hdots
  intro c rest htrim hi
  have hmember : k.isMember = false := by
    rw [Context.isMember, hdots]
    exact Bool.and_false _
  rw [startsWithKey, htrim] at h
  simp only [hi, Bool.true_and, Bool.and_eq_false_iff, Bool.not_eq_false'] at h
  -- a number is passed over in any context, so only a name can be a key
  rcases h with hdigit | hcolon
  · simp [Context.isFree, hdigit]
  · have hkey (k : Context) : k.isKey (afterWord rest) = false := by rw [Context.isKey, hcolon, Bool.and_false]
    rw [Context.isFree, Context.isFree, hmember, hkey, hkey]
    rfl

/-! ### Texts with something between them -/

theorem separates_mark {d : Char} (hq : isQuote d = false) (hi : inIdentifier d = false)
    (hw : isWhitespace d = false) (hdot : d ≠ '.') (hcolon : d ≠ ':') (cs : List Char) : Separates (d :: cs) := by
  refine ⟨?_, ?_, ?_⟩
  · intro c hc
    rwa [← Option.some.inj hc]
  · rw [trimStart, List.dropWhile_cons_of_neg (Bool.not_eq_true _ ▸ hw), List.head?_cons]
    exact fun h => hcolon (Option.some.inj h)
  · intro k k'
    rw [identifiersFrom_mark hq hi, identifiersFrom_mark hq hi, Context.after, Context.after, if_neg hdot,
      if_neg hdot, if_neg (Bool.not_eq_true _ ▸ hw), if_neg (Bool.not_eq_true _ ▸ hw)]

theorem identifiersFrom_space (k : Context) (cs : List Char) :
    identifiersFrom k (' ' :: cs) = identifiersFrom k cs := by
  rw [identifiersFrom_mark (by decide) (by decide)]
  rfl

theorem separates_space (he : Separates e) : Separates (' ' :: e) := by
  refine ⟨?_, he.noColon, ?_⟩
  · intro c hc
    rw [← Option.some.inj hc]
    decide
  · intro k k'
    rw [identifiersFrom_space, identifiersFrom_space]
    exact he.fresh k k'

theorem separates_nil : Separates [] :=
  ⟨fun _ hd => (nomatch hd), nofun, fun k k' => by rw [identifiersFrom_nil, identifiersFrom_nil]⟩

theorem separates_comma (cs : List Char) : Separates (",".toList ++ cs) ∧
    identifiersFrom {} (",".toList ++ cs) = identifiersFrom {} cs := by
  show Separates (',' :: cs) ∧ identifiersFrom {} (',' :: cs) = _
  refine ⟨separates_mark (by decide) (by decide) (by decide) (by decide) (by decide) _, ?_⟩
  rw [identifiersFrom_mark (by decide) (by decide)]
  exact identifiersFrom_comma cs

theorem separates_comma_space (cs : List Char) : Separates (", ".toList ++ cs) ∧
    identifiersFrom {} (", ".toList ++ cs) = identifiersFrom {} cs := by
  obtain ⟨hseparates, hskip⟩ := separates_comma (' ' :: cs)
  exact ⟨hseparates, hskip.trans (identifiersFrom_space _ cs)⟩

theorem identifiersFrom_intercalate {separator : String} {close : List Char}
    (hs : ∀ cs, Separates (separator.toList ++ cs) ∧
      identifiersFrom {} (separator.toList ++ cs) = identifiersFrom {} cs)
    (hc : Separates close) (k : Context) (first : String) (rest : List String)
    (hclosed : ∀ t ∈ first :: rest, Closed t) :
    identifiersFrom k ((separator.intercalate (first :: rest)).toList ++ close) =
      identifiersFrom k first.toList ++ rest.flatMap identifiers ++ identifiersFrom {} close := by
  induction rest generalizing k first with
  | nil =>
    rw [String.intercalate_singleton, identifiersFrom_append (hclosed first List.mem_cons_self) hc,
      List.flatMap_nil, List.append_nil]
  | cons second rest ih =>
    have hmore := ih {} second fun t ht => hclosed t (List.mem_cons_of_mem _ ht)
    obtain ⟨hsep, hskip⟩ := hs ((separator.intercalate (second :: rest)).toList ++ close)
    rw [String.intercalate_cons_cons, String.toList_append, String.toList_append, List.append_assoc,
      List.append_assoc, identifiersFrom_append (hclosed first List.mem_cons_self) hsep, hskip, hmore,
      List.flatMap_cons]
    simp only [List.append_assoc, identifiers]

/-! ### Texts as literals -/

theorem escape_cases (c : Char) : (∃ d, escape c = ['\\', d]) ∨ escape c = [c] ∧ c ≠ '\'' ∧ c ≠ '\\' := by
  unfold escape
  by_cases hb : c = '\\'
  · exact .inl ⟨_, if_pos hb⟩
  by_cases hq : c = '\''
  · exact .inl ⟨'\'', by rw [if_neg hb, if_pos hq]⟩
  by_cases hn : c = '\n'
  · exact .inl ⟨'n', by rw [if_neg hb, if_neg hq, if_pos hn]⟩
  by_cases hr : c = '\r'
  · exact .inl ⟨'r', by rw [if_neg hb, if_neg hq, if_neg hn, if_pos hr]⟩
  · exact .inr ⟨by rw [if_neg hb, if_neg hq, if_neg hn, if_neg hr], hq, hb⟩

theorem afterQuoted_flatMap_escape (text rest : List Char) :
    afterQuoted '\'' (text.flatMap escape ++ '\'' :: rest) = rest := by
  induction text with
  | nil => exact afterQuoted_close _ _
  | cons c text ih =>
    rw [List.flatMap_cons, List.append_assoc]
    rcases escape_cases c with ⟨d, hd⟩ | ⟨hc, hq, hb⟩
    · rw [hd, List.cons_append, List.cons_append, List.nil_append, afterQuoted_escape (by decide), ih]
    · rw [hc, List.singleton_append, afterQuoted_inside hq hb, ih]

theorem openQuote?_flatMap_escape (text rest : List Char) :
    openQuote? (some '\'') (text.flatMap escape ++ '\'' :: rest) = openQuote? none rest := by
  induction text with
  | nil => exact openQuote?_close _ _
  | cons c text ih =>
    rw [List.flatMap_cons, List.append_assoc]
    rcases escape_cases c with ⟨d, hd⟩ | ⟨hc, hq, hb⟩
    · rw [hd, List.cons_append, List.cons_append, List.nil_append, openQuote?_escape (by decide), ih]
    · rw [hc, List.singleton_append, openQuote?_inside hq hb, ih]

theorem quoteChars_append (text rest : List Char) :
    quoteChars text ++ rest = '\'' :: (text.flatMap escape ++ '\'' :: rest) := by
  simp [quoteChars]

theorem identifiersFrom_literal (k : Context) (text rest : List Char) :
    identifiersFrom k (quoteChars text ++ rest) = identifiersFrom ⟨some '\'', 0⟩ rest := by
  rw [quoteChars_append, identifiersFrom_quote rfl, afterQuoted_flatMap_escape]

theorem openQuote?_literal (text rest : List Char) :
    openQuote? none (quoteChars text ++ rest) = openQuote? none rest := by
  rw [quoteChars_append, openQuote?_quote rfl, openQuote?_flatMap_escape]

end AngularScaffold.Expression
