import AngularScaffold.Files.Path

namespace AngularScaffold.Files

theorem splitSlashes_slash (cs : List Char) : splitSlashes ('/' :: cs) = [] :: splitSlashes cs := by
  rw [splitSlashes, if_pos rfl]

theorem splitSlashes_ne_nil (cs : List Char) : splitSlashes cs ≠ [] := by
  cases cs with
  | nil => simp [splitSlashes]
  | cons c cs =>
    rw [splitSlashes]
    split
    · simp
    · split <;> simp

theorem splitSlashes_append (a b : List Char) :
    splitSlashes (a ++ '/' :: b) = splitSlashes a ++ splitSlashes b := by
  induction a with
  | nil => exact splitSlashes_slash b
  | cons c a ih =>
    rw [List.cons_append]
    by_cases h : c = '/'
    · rw [h, splitSlashes_slash, splitSlashes_slash, ih, List.cons_append]
    · rw [splitSlashes, splitSlashes, if_neg h, if_neg h, ih]
      cases ha : splitSlashes a with
      | nil => exact absurd ha (splitSlashes_ne_nil a)
      | cons part rest => rfl

theorem splitSlashes_flat {cs : List Char} (h : '/' ∉ cs) : splitSlashes cs = [cs] := by
  induction cs with
  | nil => rfl
  | cons c cs ih =>
    rw [List.mem_cons, not_or] at h
    rw [splitSlashes, if_neg (Ne.symm h.1), ih h.2]

theorem slash_notMem_of_mem_splitSlashes {cs part : List Char} (h : part ∈ splitSlashes cs) : '/' ∉ part := by
  induction cs generalizing part with
  | nil =>
    rw [splitSlashes, List.mem_singleton] at h
    simp [h]
  | cons c cs ih =>
    rw [splitSlashes] at h
    split at h
    · rcases List.mem_cons.mp h with rfl | h
      · simp
      · exact ih h
    · rename_i hc
      cases hs : splitSlashes cs with
      | nil => exact absurd hs (splitSlashes_ne_nil cs)
      | cons first rest =>
        rw [hs] at h ih
        rcases List.mem_cons.mp h with rfl | h
        · have hfirst := ih List.mem_cons_self
          simp [hfirst, Ne.symm hc]
        · exact ih (List.mem_cons_of_mem _ h)

theorem parts_append (a b : String) : parts (a ++ "/" ++ b) = parts a ++ parts b := by
  have h : (a ++ "/" ++ b).toList = a.toList ++ '/' :: b.toList := by simp
  rw [parts, h, splitSlashes_append, List.map_append, parts, parts]

theorem parts_flat {name : String} (h : '/' ∉ name.toList) : parts name = [name] := by
  rw [parts, splitSlashes_flat h, List.map_singleton, String.ofList_toList]

theorem slash_notMem_of_mem_parts {path part : String} (h : part ∈ parts path) : '/' ∉ part.toList := by
  obtain ⟨cs, hcs, rfl⟩ := List.mem_map.mp h
  rw [String.toList_ofList]
  exact slash_notMem_of_mem_splitSlashes hcs

theorem parts_intercalate {part : String} {rest : List String} (h : ∀ p ∈ part :: rest, '/' ∉ p.toList) :
    parts ("/".intercalate (part :: rest)) = part :: rest := by
  induction rest generalizing part with
  | nil =>
    rw [String.intercalate_singleton]
    exact parts_flat (h part List.mem_cons_self)
  | cons second rest ih =>
    have hfirst := parts_flat (h part List.mem_cons_self)
    have hmore := ih fun p hp => h p (List.mem_cons_of_mem _ hp)
    rw [String.intercalate_cons_cons, parts_append, hfirst, hmore, List.singleton_append]

def names (path : String) : List String :=
  (parts path).filter (!isStay ·)

def Descends (path : String) : Prop :=
  ".." ∉ parts path

instance (path : String) : Decidable (Descends path) :=
  inferInstanceAs (Decidable (_ ∉ _))

structure JoinedTo (directory name path : String) (front : List String) : Prop where
  parts_eq : parts path = front ++ [name]
  names_eq : front.filter (!isStay ·) = names directory
  subset : ∀ part ∈ front, part ∈ parts directory

section Joining

variable {directory name : String}

theorem isAbsolute_eq_false (h : '/' ∉ name.toList) : isAbsolute name = false := by
  rw [isAbsolute, beq_eq_false_iff_ne]
  exact fun hhead => h (List.mem_of_mem_head? hhead)

theorem isAbsolute_join (h : '/' ∉ name.toList) : isAbsolute (join directory name) = isAbsolute directory := by
  have hname := isAbsolute_eq_false h
  rw [join, hname, if_neg Bool.false_ne_true]
  by_cases hempty : directory = ""
  · rw [hempty, if_pos (by decide), String.empty_append, hname]
    rfl
  · have hne : directory.toList ≠ [] := by simpa using hempty
    obtain ⟨c, cs, hcs⟩ := List.exists_cons_of_ne_nil hne
    split <;> simp [isAbsolute, hcs]

theorem exists_joinedTo (directory : String) (h : '/' ∉ name.toList) :
    ∃ front, JoinedTo directory name (join directory name) front := by
  rw [join, isAbsolute_eq_false h, if_neg Bool.false_ne_true]
  by_cases hempty : directory = ""
  · refine ⟨[], ?_, ?_, ?_⟩
    · rw [hempty]
      simpa using parts_flat h
    · rw [hempty]
      rfl
    · simp
  by_cases hslash : directory.toList.getLast? = some '/'
  · obtain ⟨before, hbefore⟩ := List.getLast?_eq_some_iff.mp hslash
    have hdirectory : directory = String.ofList before ++ "/" := by
      rw [← String.toList_inj]
      simp [hbefore]
    have hparts : parts directory = parts (String.ofList before) ++ [""] := by
      rw [hdirectory, ← String.append_empty (s := String.ofList before ++ "/"), parts_append]
      rfl
    refine ⟨parts (String.ofList before), ?_, ?_, ?_⟩
    · rw [if_pos (by simp [hslash]), hdirectory, parts_append, parts_flat h]
    · rw [names, hparts, List.filter_append]
      simp [isStay]
    · intro part hpart
      rw [hparts]
      exact List.mem_append_left _ hpart
  · refine ⟨parts directory, ?_, rfl, fun _ hpart => hpart⟩
    rw [if_neg (by simp [hempty, hslash]), parts_append, parts_flat h]

end Joining

theorem filter_dropWhile {α : Type} (p : α → Bool) (xs : List α) :
    (xs.dropWhile p).filter (!p ·) = xs.filter (!p ·) := by
  induction xs with
  | nil => rfl
  | cons x xs ih =>
    cases hx : p x with
    | true => rw [List.dropWhile_cons_of_pos hx, ih, List.filter_cons_of_neg (by simp [hx])]
    | false => rw [List.dropWhile_cons_of_neg (by simp [hx])]

variable {directory name path : String} {front : List String}

theorem names_parent (h : JoinedTo directory name path front) (hname : isStay name = false) :
    names (parent path) = names directory ∧ (Descends directory → Descends (parent path)) := by
  have hflat : ∀ part ∈ front, '/' ∉ part.toList := fun part hpart =>
    slash_notMem_of_mem_parts (h.subset part hpart)
  have hkept : ∀ part ∈ (front.reverse.dropWhile isStay).reverse, part ∈ front := by
    intro part hpart
    have hdropped := (List.dropWhile_sublist isStay).subset (List.mem_reverse.mp hpart)
    exact List.mem_reverse.mp hdropped
  have hparent : parent path = "/".intercalate (front.reverse.dropWhile isStay).reverse := by
    rw [parent, h.parts_eq, List.reverse_append, List.reverse_singleton, List.singleton_append,
      List.dropWhile_cons_of_neg (by simp [hname]), List.drop_one, List.tail_cons]
  have hnames : (front.reverse.dropWhile isStay).reverse.filter (!isStay ·) = names directory := by
    rw [List.filter_reverse, filter_dropWhile, List.filter_reverse, List.reverse_reverse, h.names_eq]
  cases hparts : (front.reverse.dropWhile isStay).reverse with
  | nil =>
    rw [hparts] at hparent hnames
    rw [hparent, String.intercalate_nil, ← hnames]
    exact ⟨rfl, fun _ => by decide⟩
  | cons part rest =>
    rw [hparts] at hparent hnames hkept
    have hsplit := parts_intercalate fun p hp => hflat p (hkept p hp)
    rw [← hparent] at hsplit
    rw [names, Descends, Descends, hsplit]
    exact ⟨hnames, fun hd hmem => hd (h.subset _ (hkept _ hmem))⟩

end AngularScaffold.Files
