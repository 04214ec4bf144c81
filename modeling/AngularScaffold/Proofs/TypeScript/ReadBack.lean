import AngularScaffold.TypeScript.Literal
import Mathlib.Data.List.Basic

namespace AngularScaffold.TypeScript

variable {α : Type}

def expect? (token : String) (cs : List Char) : Option (List Char) :=
  token.toList.isPrefixOf? cs

theorem expect?_append (token : String) (rest : List Char) : expect? token (token.toList ++ rest) = some rest :=
  List.isPrefixOf?_eq_some_iff_append_eq.mpr rfl

theorem eq_of_expect? {token : String} {cs rest : List Char} (h : expect? token cs = some rest) :
    token.toList ++ rest = cs :=
  List.isPrefixOf?_eq_some_iff_append_eq.mp h

def readItems? (item : List Char → Option (α × List Char)) (close : String) (cs : List Char) :
    Option (List α × List Char) :=
  match item cs with
  | none => none
  | some (a, after) =>
    match expect? close after with
    | some rest => some ([a], rest)
    | none =>
      match expect? ", " after with
      | none => none
      | some more =>
        -- an item that reads nothing could go on for ever
        if more.length < cs.length then (readItems? item close more).map fun p => (a :: p.1, p.2)
        else none
termination_by cs.length

def readText? (cs : List Char) : Option (String × List Char) :=
  (readLiteral? cs).map fun p => (String.ofList p.1, p.2)

def readPair? (cs : List Char) : Option ((String × String) × List Char) :=
  (readText? cs).bind fun key => (expect? ": " key.2).bind fun cs =>
    (readText? cs).map fun value => ((key.1, value.1), value.2)

def readArray? (cs : List Char) : Option (List String × List Char) :=
  (expect? "[" cs).bind fun cs =>
    match expect? "]" cs with
    | some rest => some ([], rest)
    | none => readItems? readText? "]" cs

def readObject? (cs : List Char) : Option (List (String × String) × List Char) :=
  match expect? "\x7b\x7d" cs with
  | some rest => some ([], rest)
  | none => (expect? "\x7b " cs).bind (readItems? readPair? " \x7d")

theorem toList_quote (text : String) : (quote text).toList = quoteChars text.toList := by
  simp [quote]

theorem readText?_quote (text : String) (rest : List Char) :
    readText? ((quote text).toList ++ rest) = some (text, rest) := by
  rw [readText?, toList_quote, readLiteral?_quoteChars]
  simp

theorem readPair?_quote (e : String × String) (rest : List Char) :
    readPair? ((quote e.1 ++ ": " ++ quote e.2).toList ++ rest) = some (e, rest) := by
  simp only [readPair?, String.toList_append, List.append_assoc, readText?_quote, expect?_append,
    Option.bind_some, Option.map_some]

theorem readItems?_intercalate_of {item : List Char → Option (α × List Char)} {write : α → String} {close : String}
    (Ends : List Char → Prop) (hcomma : ∀ rest, Ends (", ".toList ++ rest)) (hend : ∀ rest, Ends (close.toList ++ rest))
    (hclose : ∀ rest, expect? close (", ".toList ++ rest) = none) (a : α) (as : List α)
    (hitem : ∀ b ∈ a :: as, ∀ rest, Ends rest → item ((write b).toList ++ rest) = some (b, rest))
    (rest : List Char) :
    readItems? item close ((", ".intercalate ((a :: as).map write)).toList ++ (close.toList ++ rest)) =
      some (a :: as, rest) := by
  induction as generalizing a with
  | nil =>
    rw [List.map_singleton, String.intercalate_singleton, readItems?, hitem a List.mem_cons_self _ (hend rest)]
    simp only [expect?_append]
  | cons b as ih =>
    have hmore := ih b fun c hc => hitem c (List.mem_cons_of_mem _ hc)
    rw [List.map_cons, List.map_cons, String.intercalate_cons_cons, ← List.map_cons, String.toList_append,
      String.toList_append, List.append_assoc, List.append_assoc, readItems?,
      hitem a List.mem_cons_self _ (hcomma _)]
    simp only [hclose, expect?_append]
    rw [if_pos, hmore]
    · rfl
    · simp only [List.length_append]
      have : ", ".toList.length = 2 := rfl
      omega

theorem readItems?_intercalate {item : List Char → Option (α × List Char)} {write : α → String} {close : String}
    (hitem : ∀ a rest, item ((write a).toList ++ rest) = some (a, rest))
    (hclose : ∀ rest, expect? close (", ".toList ++ rest) = none) (a : α) (as : List α) (rest : List Char) :
    readItems? item close ((", ".intercalate ((a :: as).map write)).toList ++ (close.toList ++ rest)) =
      some (a :: as, rest) :=
  readItems?_intercalate_of (fun _ => True) (fun _ => trivial) (fun _ => trivial) hclose a as
    (fun b _ rest _ => hitem b rest) rest

theorem toList_intercalate_quote (t : String) (ts : List String) :
    ∃ cs, (", ".intercalate ((t :: ts).map quote)).toList = '\'' :: cs := by
  cases ts with
  | nil =>
    rw [List.map_singleton, String.intercalate_singleton, toList_quote]
    exact ⟨_, rfl⟩
  | cons u ts =>
    rw [List.map_cons, List.map_cons, String.intercalate_cons_cons, String.append_assoc, String.toList_append,
      toList_quote]
    exact ⟨_, rfl⟩

theorem readArray?_arrayOfTexts (texts : List String) (rest : List Char) :
    readArray? ((arrayOfTexts texts).toList ++ rest) = some (texts, rest) := by
  simp only [arrayOfTexts, array, readArray?, String.toList_append, List.append_assoc, expect?_append,
    Option.bind_some]
  cases texts with
  | nil =>
    simp only [List.map_nil, String.intercalate_nil, String.toList_empty, List.nil_append, expect?_append]
  | cons t ts =>
    have hclose : ∀ rest, expect? "]" (", ".toList ++ rest) = none := fun _ => rfl
    have hitems := readItems?_intercalate readText?_quote hclose t ts rest
    obtain ⟨cs, hcs⟩ := toList_intercalate_quote t ts
    have hopen : expect? "]" ((", ".intercalate ((t :: ts).map quote)).toList ++ ("]".toList ++ rest)) = none := by
      rw [hcs]
      rfl
    rw [hopen]
    exact hitems

theorem readObject?_objectOfTexts (entries : List (String × String)) (rest : List Char) :
    readObject? ((objectOfTexts entries).toList ++ rest) = some (entries, rest) := by
  cases entries with
  | nil =>
    rw [readObject?, objectOfTexts, List.isEmpty_nil, if_pos rfl, expect?_append]
  | cons e es =>
    have hopen : ∀ cs, expect? "\x7b\x7d" ("\x7b ".toList ++ cs) = none := fun _ => rfl
    rw [readObject?, objectOfTexts, List.isEmpty_cons, if_neg Bool.false_ne_true]
    simp only [String.toList_append, List.append_assoc, hopen, expect?_append, Option.bind_some]
    exact readItems?_intercalate readPair?_quote (fun _ => rfl) e es rest

theorem head?_quote (text : String) (rest : List Char) : ((quote text).toList ++ rest).head? = some '\'' := by
  rw [toList_quote]
  rfl

theorem head?_arrayOfTexts (texts : List String) (rest : List Char) :
    ((arrayOfTexts texts).toList ++ rest).head? = some '[' := by
  simp [arrayOfTexts, array]

theorem head?_objectOfTexts (entries : List (String × String)) (rest : List Char) :
    ((objectOfTexts entries).toList ++ rest).head? = some '{' := by
  cases entries <;> simp [objectOfTexts]

def OneLine (text : String) : Prop :=
  '\n' ∉ text.toList ∧ '\r' ∉ text.toList

theorem OneLine.append {s t : String} (hs : OneLine s) (ht : OneLine t) : OneLine (s ++ t) := by
  simp only [OneLine, String.toList_append, List.mem_append, not_or]
  exact ⟨⟨hs.1, ht.1⟩, hs.2, ht.2⟩

theorem OneLine.intercalate {separator : String} {texts : List String} (hs : OneLine separator)
    (ht : ∀ t ∈ texts, OneLine t) : OneLine (separator.intercalate texts) := by
  induction texts with
  | nil => simp [OneLine]
  | cons t ts ih =>
    have hfirst := ht t List.mem_cons_self
    have hrest := ih fun u hu => ht u (List.mem_cons_of_mem _ hu)
    cases ts with
    | nil => rwa [String.intercalate_singleton]
    | cons u ts =>
      rw [String.intercalate_cons_cons]
      exact (hfirst.append hs).append hrest

theorem lineBreak_notMem_escape (c : Char) : '\n' ∉ escape c ∧ '\r' ∉ escape c := by
  unfold escape
  repeat' split
  all_goals simp_all [eq_comm]

theorem oneLine_quote (text : String) : OneLine (quote text) := by
  have hn : '\n' ∉ text.toList.flatMap escape := by
    simp [List.mem_flatMap, (lineBreak_notMem_escape _).1]
  have hr : '\r' ∉ text.toList.flatMap escape := by
    simp [List.mem_flatMap, (lineBreak_notMem_escape _).2]
  simp [OneLine, toList_quote, quoteChars, hn, hr]

theorem oneLine_arrayOfTexts (texts : List String) : OneLine (arrayOfTexts texts) := by
  have hopen : OneLine "[" := by simp [OneLine]
  have hclose : OneLine "]" := by simp [OneLine]
  have hcomma : OneLine ", " := by simp [OneLine]
  have hitems : ∀ t ∈ texts.map quote, OneLine t := by
    simp [oneLine_quote]
  exact (hopen.append (hcomma.intercalate hitems)).append hclose

theorem oneLine_objectOfTexts (entries : List (String × String)) : OneLine (objectOfTexts entries) := by
  have hopen : OneLine "\x7b " := by simp [OneLine]
  have hclose : OneLine " \x7d" := by simp [OneLine]
  have hcomma : OneLine ", " := by simp [OneLine]
  have hcolon : OneLine ": " := by simp [OneLine]
  have hpairs : ∀ t ∈ entries.map fun e => quote e.1 ++ ": " ++ quote e.2, OneLine t := by
    intro t ht
    obtain ⟨e, -, rfl⟩ := List.mem_map.mp ht
    exact ((oneLine_quote e.1).append hcolon).append (oneLine_quote e.2)
  unfold objectOfTexts
  split
  · simp [OneLine]
  · exact (hopen.append (hcomma.intercalate hpairs)).append hclose

inductive Content where
  | truth (b : Bool)
  | text (t : String)
  | texts (ts : List String)
  | entries (es : List (String × String))
  deriving DecidableEq

namespace Content

def write : Content → String
  | truth b => if b then "true" else "false"
  | text t => quote t
  | texts ts => arrayOfTexts ts
  | entries es => objectOfTexts es

def read? (cs : List Char) : Option (Content × List Char) :=
  match cs.head? with
  | some '\'' => (readText? cs).map fun p => (text p.1, p.2)
  | some '[' => (readArray? cs).map fun p => (texts p.1, p.2)
  | some '{' => (readObject? cs).map fun p => (entries p.1, p.2)
  | some 't' => (expect? "true" cs).map (truth true, ·)
  | _ => (expect? "false" cs).map (truth false, ·)

theorem read?_write (c : Content) (rest : List Char) : read? (c.write.toList ++ rest) = some (c, rest) := by
  cases c with
  | truth b =>
    cases b with
    | true => rfl
    | false => rfl
  | text t =>
    rw [write, read?, head?_quote]
    simp only [readText?_quote, Option.map_some]
  | texts ts =>
    rw [write, read?, head?_arrayOfTexts]
    simp only [readArray?_arrayOfTexts, Option.map_some]
  | entries es =>
    rw [write, read?, head?_objectOfTexts]
    simp only [readObject?_objectOfTexts, Option.map_some]

theorem write_injective {c d : Content} (h : c.write = d.write) : c = d := by
  have hc := read?_write c []
  rw [h, read?_write d []] at hc
  exact (congrArg Prod.fst (Option.some.inj hc)).symm

theorem oneLine_write (c : Content) : OneLine c.write := by
  cases c with
  | truth b => cases b <;> simp [OneLine, write]
  | text t => exact oneLine_quote t
  | texts ts => exact oneLine_arrayOfTexts ts
  | entries es => exact oneLine_objectOfTexts es

end Content

end AngularScaffold.TypeScript
