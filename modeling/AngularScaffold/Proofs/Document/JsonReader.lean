import AngularScaffold.Document.Json.Reader
import AngularScaffold.Proofs.Document.JsonNumber
import AngularScaffold.Proofs.Document.JsonText

namespace AngularScaffold.Document.Json

open Value (quoteJson)

def Takes (element : ValueReader) (written : List Char) (p : Node → Prop) : Prop :=
  ∀ offset rest, Ends rest → ∃ n k, element ⟨offset, written ++ rest⟩ = (n, some k) ∧ k.rest = rest ∧ p n

theorem Takes.imp {element : ValueReader} {written : List Char} {p q : Node → Prop} (hpq : ∀ n, p n → q n)
    (h : Takes element written p) : Takes element written q := by
  intro offset rest hrest
  obtain ⟨n, k, hread, hk, hn⟩ := h offset rest hrest
  exact ⟨n, k, hread, hk, hpq n hn⟩

def Begins (written : List Char) : Prop :=
  ∃ c cs, written = c :: cs ∧ isBlank c = false ∧ c ≠ ']'

theorem skipBlanks_of_not {c : Char} (h : isBlank c = false) (offset : Nat) (cs : List Char) :
    skipBlanks ⟨offset, c :: cs⟩ = ⟨offset, c :: cs⟩ := by
  simp [skipBlanks, Cursor.skipWhile, Cursor.takeWhile, Cursor.takeWhile.go, h]

variable {part : Option ValueReader}

theorem takes_bool (b : Bool) :
    Takes (readValueWith part) (if b then "true" else "false").toList fun n => ∃ span, n = .scalar (.bool b) span := by
  intro offset rest _
  cases b with
  | true => exact ⟨_, _, rfl, rfl, _, rfl⟩
  | false => exact ⟨_, _, rfl, rfl, _, rfl⟩

theorem ne_of_number {c d : Char} (hc : c = '-' ∨ c.isDigit) (hd : ¬(d = '-' ∨ d.isDigit)) : c ≠ d := by
  rintro rfl
  exact hd hc

theorem not_isBlank_of_number {c : Char} (h : c = '-' ∨ c.isDigit) : isBlank c = false := by
  have hspace : c ≠ ' ' := ne_of_number h (by decide)
  have hnewline : c ≠ '\n' := ne_of_number h (by decide)
  have htab : c ≠ '\t' := ne_of_number h (by decide)
  have hreturn : c ≠ '\r' := ne_of_number h (by decide)
  simp [isBlank, hspace, hnewline, htab, hreturn]

theorem readValueWith_number {c : Char} (h : c = '-' ∨ c.isDigit) (offset : Nat) (cs : List Char) :
    readValueWith part ⟨offset, c :: cs⟩ = readNumber ⟨offset, c :: cs⟩ := by
  have hnull : c ≠ 'n' := ne_of_number h (by decide)
  have htrue : c ≠ 't' := ne_of_number h (by decide)
  have hfalse : c ≠ 'f' := ne_of_number h (by decide)
  have hquote : c ≠ '"' := ne_of_number h (by decide)
  rw [readValueWith, skipBlanks_of_not (not_isBlank_of_number h)]
  simp only [hnull, htrue, hfalse, hquote, if_false]
  exact if_pos (by simpa using h)

theorem takes_int (i : Int64) :
    Takes (readValueWith part) (toString i.toInt).toList fun n => ∃ span, n = .scalar (.int i.toInt) span := by
  intro offset rest hrest
  obtain ⟨span, k, hread, hk⟩ := readNumber_toString i offset hrest
  obtain ⟨c, cs, hcs, hc⟩ := toString_starts i.toInt
  rw [hcs, List.cons_append] at hread ⊢
  rw [readValueWith_number hc]
  exact ⟨_, k, hread, hk, span, rfl⟩

theorem takes_text (s : String) :
    Takes (readValueWith part) (quoteJson s).toList fun n => ∃ span, n = .scalar (.text s) span := by
  intro offset rest _
  obtain ⟨inner, hinner, hread⟩ := toList_quoteJson s
  obtain ⟨offset', hread⟩ := hread (offset + 1) rest
  refine ⟨_, ⟨offset', rest⟩, ?_, rfl, ⟨offset, offset'⟩, rfl⟩
  rw [hinner, List.cons_append, readValueWith, skipBlanks_of_not (by decide)]
  simp only [readString, hread, String.ofList_toList]
  rfl

variable {α : Type}

theorem intercalate_cons (t : List Char) (ts : List (List Char)) :
    [','].intercalate (t :: ts) = t ++ ts.flatMap (',' :: ·) := by
  induction ts generalizing t with
  | nil => simp
  | cons u us ih =>
    rw [List.intercalate_cons_cons, ih, List.flatMap_cons, List.append_assoc]
    rfl

theorem ends_flatMap {rest : List Char} (h : Ends rest) (write : α → List Char) (as : List α) :
    Ends (as.flatMap (fun a => ',' :: write a) ++ rest) := by
  cases as with
  | nil => exact h
  | cons a as => exact ends_comma _

theorem length_le_intercalate (ts : List (List Char)) : ts.length ≤ ([','].intercalate ts).length + 1 := by
  have hcommas (us : List (List Char)) : us.length ≤ (us.flatMap (',' :: ·)).length := by
    induction us with
    | nil => exact Nat.zero_le _
    | cons u us ih =>
      simp only [List.flatMap_cons, List.length_append, List.length_cons]
      omega
  cases ts with
  | nil => exact Nat.zero_le _
  | cons t ts =>
    have := hcommas ts
    simp only [intercalate_cons, List.length_append, List.length_cons]
    omega

theorem length_lt_bound (write : α → List Char) (as : List α) (close : Char) (rest : List Char) :
    as.length < ([','].intercalate (as.map write) ++ close :: rest).length + 1 := by
  have := length_le_intercalate (as.map write)
  simp only [List.length_append, List.length_cons, List.length_map] at this ⊢
  omega

variable {element : ValueReader} {write : α → List Char} {P : Node → α → Prop}

inductive ItemsOf (P : Node → α → Prop) : Items → List α → Prop
  | nil : ItemsOf P .nil []
  | cons {n a ns as} : P n a → ItemsOf P ns as → ItemsOf P (.cons n ns) (a :: as)

theorem readItems_end (bound : Nat) (first : Bool) (offset : Nat) (rest : List Char) :
    readItems element (bound + 1) first ⟨offset, ']' :: rest⟩ = (.nil, some ⟨offset + 1, rest⟩) := by
  rw [readItems, skipBlanks_of_not (by decide)]
  rfl

theorem readItems_first {bound : Nat} {c : Char} {cs : List Char} {n : Node} {k : Cursor} (hc : isBlank c = false)
    (hend : c ≠ ']') {offset : Nat} (he : element ⟨offset, c :: cs⟩ = (n, some k)) :
    readItems element (bound + 1) true ⟨offset, c :: cs⟩ =
      (.cons n (readItems element bound false k).1, (readItems element bound false k).2) := by
  rw [readItems, skipBlanks_of_not hc]
  simp only [hend, if_false, if_true, he]

theorem readItems_comma (bound : Nat) {c : Char} {cs : List Char} (hc : isBlank c = false) (hend : c ≠ ']')
    (offset : Nat) : readItems element (bound + 1) false ⟨offset, ',' :: c :: cs⟩ =
      readItems element (bound + 1) true ⟨offset + 1, c :: cs⟩ := by
  rw [readItems, readItems, skipBlanks_of_not (by decide)]
  simp only [skipBlanks_of_not hc, hend, if_false, if_true, Bool.false_eq_true]
  rfl

theorem readItems_behind {as : List α} (hw : ∀ a ∈ as, Begins (write a))
    (ht : ∀ a ∈ as, Takes element (write a) (P · a)) {bound : Nat} (hb : as.length < bound) (offset : Nat) (rest : List Char) :
    ∃ items offset', readItems element bound false ⟨offset, as.flatMap (fun a => ',' :: write a) ++ ']' :: rest⟩ =
      (items, some ⟨offset', rest⟩) ∧ ItemsOf P items as := by
  induction as generalizing bound offset with
  | nil =>
    obtain ⟨bound, rfl⟩ := Nat.exists_eq_add_of_lt hb
    exact ⟨.nil, offset + 1, readItems_end _ false offset rest, .nil⟩
  | cons a as ih =>
    obtain ⟨bound, rfl⟩ := Nat.exists_eq_add_of_lt hb
    rw [List.forall_mem_cons] at hw ht
    obtain ⟨c, cs, hcs, hc, hend⟩ := hw.1
    obtain ⟨n, k, hread, hk, hn⟩ := ht.1 (offset + 1) _ (ends_flatMap (ends_bracket rest) write as)
    have hb' : as.length < as.length + 1 + bound := by omega
    obtain ⟨items, offset', hrest, hitems⟩ := ih hw.2 ht.2 hb' k.offset
    refine ⟨.cons n items, offset', ?_, .cons hn hitems⟩
    rw [← hk] at hrest
    rw [List.flatMap_cons, List.cons_append, List.cons_append, List.append_assoc]
    rw [hcs, List.cons_append] at hread ⊢
    rw [readItems_comma _ hc hend, List.length_cons, readItems_first hc hend hread, hrest]

theorem readItems_written {as : List α} (hw : ∀ a ∈ as, Begins (write a))
    (ht : ∀ a ∈ as, Takes element (write a) (P · a)) {bound : Nat} (hb : as.length < bound) (offset : Nat)
    (rest : List Char) :
    ∃ items offset', readItems element bound true ⟨offset + 1, [','].intercalate (as.map write) ++ ']' :: rest⟩ =
      (items, some ⟨offset', rest⟩) ∧ ItemsOf P items as := by
  cases as with
  | nil =>
    obtain ⟨bound, rfl⟩ := Nat.exists_eq_add_of_lt hb
    exact ⟨.nil, offset + 2, readItems_end _ true (offset + 1) rest, .nil⟩
  | cons a as =>
    obtain ⟨items, offset', hread, hitems⟩ := readItems_behind hw ht hb offset rest
    obtain ⟨c, cs, hcs, hc, hend⟩ := hw a List.mem_cons_self
    obtain ⟨bound, rfl⟩ := Nat.exists_eq_add_of_lt hb
    refine ⟨items, offset', ?_, hitems⟩
    rw [List.flatMap_cons, List.cons_append, List.cons_append, List.append_assoc, hcs, List.cons_append,
      readItems_comma _ hc hend] at hread
    rw [List.map_cons, intercalate_cons, List.flatMap_map, List.append_assoc, hcs, List.cons_append]
    exact hread

theorem takes_list {as : List α} (hw : ∀ a ∈ as, Begins (write a)) (ht : ∀ a ∈ as, Takes element (write a) (P · a)) :
    Takes (readValueWith (some element)) ('[' :: ([','].intercalate (as.map write) ++ [']']))
      fun n => ∃ items span, n = .list items span ∧ ItemsOf P items as := by
  intro offset rest _
  obtain ⟨items, offset', hread, hitems⟩ := readItems_written hw ht (length_lt_bound write as ']' rest) offset rest
  refine ⟨.list items ⟨offset, offset'⟩, ⟨offset', rest⟩, ?_, rfl, items, _, rfl, hitems⟩
  rw [List.cons_append, List.append_assoc, List.singleton_append, readValueWith, skipBlanks_of_not (by decide)]
  simp only [hread, closeList]
  rfl

inductive EntriesOf (P : Node → α → Prop) : Entries → List (String × α) → Prop
  | nil : EntriesOf P .nil []
  | cons {key span n a ns es} : P n a → EntriesOf P ns es → EntriesOf P (.cons key span n ns) ((key, a) :: es)

def member (write : α → List Char) (e : String × α) : List Char :=
  (quoteJson e.1).toList ++ ':' :: write e.2

theorem readEntries_end (bound : Nat) (first : Bool) (offset : Nat) (rest : List Char) :
    readEntries element (bound + 1) first ⟨offset, '}' :: rest⟩ = (.nil, some ⟨offset + 1, rest⟩) := by
  rw [readEntries, skipBlanks_of_not (by decide)]
  rfl

theorem readEntries_comma (bound offset : Nat) (cs : List Char) :
    readEntries element (bound + 1) false ⟨offset, ',' :: '"' :: cs⟩ =
      readEntries element (bound + 1) true ⟨offset + 1, '"' :: cs⟩ := by
  rw [readEntries, readEntries, skipBlanks_of_not (by decide)]
  simp only [skipBlanks_of_not (show isBlank '"' = false by decide)]
  rfl

theorem readEntries_first {bound offset offset' : Nat} {cs cs' : List Char} {key : String} {n : Node} {k : Cursor}
    (hkey : readTextFrom (offset + 1) cs = .ok (key.toList, ⟨offset', ':' :: cs'⟩))
    (he : element ⟨offset' + 1, cs'⟩ = (n, some k)) :
    readEntries element (bound + 1) true ⟨offset, '"' :: cs⟩ =
      (.cons key ⟨offset, offset'⟩ n (readEntries element bound false k).1,
        (readEntries element bound false k).2) := by
  rw [readEntries, skipBlanks_of_not (by decide)]
  simp only [hkey, skipBlanks_of_not (show isBlank ':' = false by decide), he, String.ofList_toList]
  rfl

theorem readEntries_behind {es : List (String × α)} (ht : ∀ e ∈ es, Takes element (write e.2) (P · e.2)) {bound : Nat}
    (hb : es.length < bound) (offset : Nat) (rest : List Char) :
    ∃ entries offset',
      readEntries element bound false ⟨offset, es.flatMap (fun e => ',' :: member write e) ++ '}' :: rest⟩ =
        (entries, some ⟨offset', rest⟩) ∧ EntriesOf P entries es := by
  induction es generalizing bound offset with
  | nil =>
    obtain ⟨bound, rfl⟩ := Nat.exists_eq_add_of_lt hb
    exact ⟨.nil, offset + 1, readEntries_end _ false offset rest, .nil⟩
  | cons e es ih =>
    obtain ⟨bound, rfl⟩ := Nat.exists_eq_add_of_lt hb
    rw [List.forall_mem_cons] at ht
    obtain ⟨key, a⟩ := e
    obtain ⟨inner, hinner, hkey⟩ := toList_quoteJson key
    obtain ⟨offset₁, hkey⟩ := hkey (offset + 2)
      (':' :: (write a ++ (es.flatMap (fun e => ',' :: member write e) ++ '}' :: rest)))
    obtain ⟨n, k, hread, hk, hn⟩ := ht.1 (offset₁ + 1) _ (ends_flatMap (ends_brace rest) (member write) es)
    have hb' : es.length < es.length + 1 + bound := by omega
    obtain ⟨entries, offset', hrest, hentries⟩ := ih ht.2 hb' k.offset
    refine ⟨.cons key ⟨offset + 1, offset₁⟩ n entries, offset', ?_, .cons hn hentries⟩
    rw [← hk] at hrest
    rw [List.flatMap_cons, List.cons_append, List.cons_append, List.append_assoc, member, hinner, List.cons_append,
      List.cons_append, List.append_assoc, List.cons_append, readEntries_comma, List.length_cons,
      readEntries_first hkey hread, hrest]

theorem readEntries_written {es : List (String × α)} (ht : ∀ e ∈ es, Takes element (write e.2) (P · e.2)) {bound : Nat}
    (hb : es.length < bound) (offset : Nat) (rest : List Char) :
    ∃ entries offset',
      readEntries element bound true ⟨offset + 1, [','].intercalate (es.map (member write)) ++ '}' :: rest⟩ =
        (entries, some ⟨offset', rest⟩) ∧ EntriesOf P entries es := by
  cases es with
  | nil =>
    obtain ⟨bound, rfl⟩ := Nat.exists_eq_add_of_lt hb
    exact ⟨.nil, offset + 2, readEntries_end _ true (offset + 1) rest, .nil⟩
  | cons e es =>
    obtain ⟨entries, offset', hread, hentries⟩ := readEntries_behind ht hb offset rest
    obtain ⟨inner, hinner, -⟩ := toList_quoteJson e.1
    obtain ⟨bound, rfl⟩ := Nat.exists_eq_add_of_lt hb
    refine ⟨entries, offset', ?_, hentries⟩
    rw [List.flatMap_cons, List.cons_append, List.cons_append, List.append_assoc, member, hinner, List.cons_append,
      List.cons_append, readEntries_comma] at hread
    rw [List.map_cons, intercalate_cons, List.flatMap_map, List.append_assoc, member, hinner, List.cons_append,
      List.cons_append]
    exact hread

theorem takes_table {es : List (String × α)} (ht : ∀ e ∈ es, Takes element (write e.2) (P · e.2)) :
    Takes (readValueWith (some element)) ('{' :: ([','].intercalate (es.map (member write)) ++ ['}']))
      fun n => ∃ entries span, n = .table entries span ∧ EntriesOf P entries es := by
  intro offset rest _
  have hb := length_lt_bound (member write) es '}' rest
  obtain ⟨entries, offset', hread, hentries⟩ := readEntries_written ht hb offset rest
  refine ⟨.table entries ⟨offset, offset'⟩, ⟨offset', rest⟩, ?_, rfl, entries, _, rfl, hentries⟩
  rw [List.cons_append, List.append_assoc, List.singleton_append, readValueWith, skipBlanks_of_not (by decide)]
  simp only [hread, closeTable]
  rfl

end AngularScaffold.Document.Json
