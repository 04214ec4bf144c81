import AngularScaffold.Proofs.Files.SoundTree

namespace AngularScaffold.Files

def passed (place : Place) : List String → List Place
  | [] => []
  | part :: rest => place.next part :: passed (place.next part) rest

def reached (place : Place) (ps : List String) : Place :=
  ps.foldl Place.next place

theorem reached_concat (place : Place) (ps : List String) (part : String) :
    reached place (ps ++ [part]) = (reached place ps).next part := by
  simp [reached]

theorem passed_subset_concat {place q : Place} {ps : List String} (part : String) (h : q ∈ passed place ps) :
    q ∈ passed place (ps ++ [part]) := by
  induction ps generalizing place with
  | nil => cases h
  | cons first rest ih =>
    rcases List.mem_cons.mp h with rfl | h
    · exact List.mem_cons_self
    · exact List.mem_cons_of_mem _ (ih h)

theorem reached_of_notMem {place : Place} {ps : List String} (hup : ".." ∉ ps) :
    reached place ps = place ++ ps.filter (!isStay ·) := by
  induction ps generalizing place with
  | nil => simp [reached]
  | cons part rest ih =>
    rw [List.mem_cons, not_or] at hup
    rw [← FileTree.next_append (Ne.symm hup.1), ← ih hup.2]
    rfl

theorem names_eq_concat {path name : String} {front : List String} (hparts : parts path = front ++ [name])
    (hname : isStay name = false) :
    names (parent path) = front.filter (!isStay ·) ∧ names path = names (parent path) ++ [name] := by
  have hflat : ∀ part ∈ front, '/' ∉ part.toList := fun part hpart =>
    slash_notMem_of_mem_parts (hparts ▸ List.mem_append_left _ hpart)
  have hjoined : ∃ directory, JoinedTo directory name path front := by
    cases front with
    | nil => exact ⟨"", hparts, rfl, fun _ h => nomatch h⟩
    | cons part rest =>
      have hsplit := parts_intercalate hflat
      exact ⟨"/".intercalate (part :: rest), hparts, by rw [names, hsplit], fun _ h => hsplit.symm ▸ h⟩
  obtain ⟨directory, hjoined⟩ := hjoined
  have hparent : names (parent path) = front.filter (!isStay ·) :=
    (names_parent hjoined hname).1.trans hjoined.names_eq.symm
  refine ⟨hparent, ?_⟩
  rw [hparent, names, hparts, List.filter_append, List.filter_cons_of_pos (by simp [hname]), List.filter_nil]

namespace FileTree

variable {t t' : FileTree} {place d : Place} {ps : List String} {path : String} {content : ByteArray}

def destination (t : FileTree) (path : String) : Place :=
  reached (t.start path) (names path)

def way (t : FileTree) (path : String) : List Place :=
  passed (t.start path) (names path)

theorem follow?_names (h : t.isDirectory place = true) (name : String) :
    t.follow? place (ps ++ [name]) = t.follow? place (ps.filter (!isStay ·) ++ [name]) := by
  induction ps generalizing place with
  | nil => rfl
  | cons part rest ih =>
    cases hpart : isStay part with
    | true =>
      rw [List.filter_cons_of_neg (by simp [hpart]), List.cons_append, follow?, if_pos h, next_of_isStay hpart]
      exact ih h
    | false =>
      rw [List.filter_cons_of_pos (by simp [hpart]), List.cons_append, List.cons_append, follow?, follow?]
      by_cases hnext : t.isDirectory (place.next part) = true
      · rw [ih hnext]
      · -- what is no directory leads nowhere, however many parts follow
        have hnowhere : ∀ qs, t.follow? (place.next part) (qs ++ [name]) = none := by
          intro qs
          cases qs <;> simp [follow?, hnext]
        rw [hnowhere, hnowhere]

theorem follow?_mono (hdirs : ∀ q, t.isDirectory q = true → t'.isDirectory q = true)
    (h : t.follow? place ps = some d) : t'.follow? place ps = some d := by
  induction ps generalizing place with
  | nil => exact h
  | cons part rest ih =>
    rw [follow?] at h ⊢
    split at h
    · rename_i hplace
      rw [if_pos (hdirs place hplace)]
      exact ih h
    · cases h

theorem makeDirectories_names (h : t.isDirectory place = true) :
    t.makeDirectories place ps = t.makeDirectories place (ps.filter (!isStay ·)) := by
  induction ps generalizing t place with
  | nil => rfl
  | cons part rest ih =>
    cases hpart : isStay part with
    | true =>
      rw [List.filter_cons_of_neg (by simp [hpart]), makeDirectories, next_of_isStay hpart, isDirectory_iff.mp h]
      exact ih h
    | false =>
      rw [List.filter_cons_of_pos (by simp [hpart]), makeDirectories, makeDirectories]
      split
      · rename_i hfound
        exact ih (isDirectory_iff.mpr hfound)
      · rfl
      · rename_i hnew
        split
        · rename_i hname
          rw [next_of_isName hname] at hnew ⊢
          apply ih
          rw [isDirectory_iff, find?_put _ (by simp), if_pos rfl]
        · rfl

theorem find?_makeDirectories (t : FileTree) (place : Place) (ps : List String) (q : Place) :
    (t.makeDirectories place ps).1.find? q = t.find? q ∨
      t.find? q = none ∧ (t.makeDirectories place ps).1.find? q = some .directory ∧ q ∈ passed place ps := by
  induction ps generalizing t place with
  | nil => exact .inl rfl
  | cons part rest ih =>
    have hrest : ∀ made : FileTree, made.find? q = t.find? q →
        (made.makeDirectories (place.next part) rest).1.find? q = t.find? q ∨ t.find? q = none ∧
          (made.makeDirectories (place.next part) rest).1.find? q = some .directory ∧
          q ∈ passed place (part :: rest) := by
      intro made hsame
      rcases ih made (place.next part) with h | ⟨hnone, hmade, hon⟩
      · exact .inl (h.trans hsame)
      · exact .inr ⟨hsame ▸ hnone, hmade, List.mem_cons_of_mem _ hon⟩
    rw [makeDirectories]
    split
    · exact hrest t rfl
    · exact .inl rfl
    · rename_i hnew
      split
      · rename_i hname
        have hne : place.next part ≠ [] := by
          rw [next_of_isName hname]
          simp
        by_cases he : place.next part = q
        · have hmade : (t.put (place.next part) .directory).isDirectory q = true := by
            rw [isDirectory_iff, find?_put q hne, if_pos he]
          have hstill := isDirectory_makeDirectories hmade (place.next part) rest
          exact .inr ⟨he ▸ hnew, isDirectory_iff.mp hstill, he ▸ List.mem_cons_self⟩
        · apply hrest
          rw [find?_put q hne, if_neg he]
      · exact .inl rfl

theorem follow?_makeDirectories (hplace : t.isDirectory place = true) (h : t.makeDirectories place ps = (t', some d)) :
    d = reached place ps ∧ t'.follow? place ps = some d ∧ t'.isDirectory d = true := by
  induction ps generalizing t place with
  | nil =>
    obtain ⟨rfl, he⟩ := Prod.mk.inj h
    obtain rfl := Option.some.inj he
    exact ⟨rfl, rfl, hplace⟩
  | cons part rest ih =>
    have hstill : t'.isDirectory place = true := by
      have hmade := isDirectory_makeDirectories hplace place (part :: rest)
      rwa [h] at hmade
    rw [follow?, if_pos hstill]
    rw [makeDirectories] at h
    split at h
    · rename_i hfound
      exact ih (isDirectory_iff.mpr hfound) h
    · cases h
    · split at h
      · rename_i hname
        refine ih ?_ h
        rw [isDirectory_iff, find?_put _ (by rw [next_of_isName hname]; simp), if_pos rfl]
      · cases h

theorem exists_last (path : String) : ∃ front, parts path = front ++ [(parts path).getLastD ""] := by
  rcases List.eq_nil_or_concat (parts path) with hnil | ⟨front, name, hparts⟩
  · rw [parts, List.map_eq_nil_iff] at hnil
    exact absurd hnil (splitSlashes_ne_nil path.toList)
  · rw [List.concat_eq_append] at hparts
    exact ⟨front, by simp [hparts]⟩

structure Prepared (t : FileTree) (path : String) (made : FileTree) (d : Place) (name : String) : Prop where
  isPath : isPath path = true
  isName : isName name = true
  last : ∃ front, parts path = front ++ [name]
  directories : t.makeDirectories (t.start path) (names (parent path)) = (made, some d)
  free : made.isDirectory (d ++ [name]) = false

theorem write_eq_true (ht : t.Sound) (h : t.write path content = (t', true)) :
    ∃ made d name, Prepared t path made d name ∧ t' = made.put (d ++ [name]) (.file content) := by
  unfold FileTree.write at h
  split at h
  · cases h
  split at h
  · cases h
  rename_i made d hmade
  rw [makeDirectories_names (ht.start path)] at hmade
  split at h
  · rename_i hpath
    unfold FileTree.writeAt at h
    split at h
    · rename_i hname
      rw [Bool.and_eq_true, Bool.not_eq_true'] at hname
      obtain ⟨rfl, -⟩ := Prod.mk.inj h
      exact ⟨made, d, _, ⟨hpath, hname.1, exists_last path, hmade, hname.2⟩, rfl⟩
    · cases h
  · cases h

namespace Prepared

variable {made : FileTree} {name : String}

theorem isStay_eq_false (h : Prepared t path made d name) : isStay name = false := by
  have hname := h.isName
  simp only [Files.isName, Bool.and_eq_true, Bool.not_eq_true'] at hname
  exact hname.1.1

theorem names_eq (h : Prepared t path made d name) : names path = names (parent path) ++ [name] := by
  obtain ⟨front, hparts⟩ := h.last
  exact (names_eq_concat hparts h.isStay_eq_false).2

theorem destination_eq (h : Prepared t path made d name) (ht : t.Sound) : t.destination path = d ++ [name] := by
  obtain ⟨hd, -, -⟩ := follow?_makeDirectories (ht.start path) h.directories
  rw [destination, h.names_eq, reached_concat, ← hd, next_of_isName h.isName]

theorem isEmpty_eq_false (h : Prepared t path made d name) : path.isEmpty = false := by
  obtain ⟨front, hparts⟩ := h.last
  rw [Bool.eq_false_iff]
  intro hempty
  have hname := h.isStay_eq_false
  rw [String.isEmpty_iff.mp hempty, show parts "" = [""] from rfl] at hparts
  have hlast : [""].getLast? = some name := by rw [hparts, List.getLast?_concat]
  rw [← Option.some.inj hlast] at hname
  cases hname

theorem lookup?_eq (h : Prepared t path made d name) (ht : t.Sound) {u : FileTree} (hhere : u.here = t.here)
    (hdirs : ∀ q, made.isDirectory q = true → u.isDirectory q = true) : u.lookup? path = u.find? (d ++ [name]) := by
  obtain ⟨front, hparts⟩ := h.last
  obtain ⟨-, hfollow, hd⟩ := follow?_makeDirectories (ht.start path) h.directories
  have hstart : u.start path = t.start path := by rw [FileTree.start, FileTree.start, hhere]
  have hroot : u.isDirectory (t.start path) = true := by
    have hmade := isDirectory_makeDirectories (ht.start path) (t.start path) (names (parent path))
    rw [h.directories] at hmade
    exact hdirs _ hmade
  rw [lookup?, h.isEmpty_eq_false, h.isPath, Bool.not_true, Bool.or_self, if_neg Bool.false_ne_true, hstart, hparts,
    follow?_names hroot, ← (names_eq_concat hparts h.isStay_eq_false).1, follow?_append,
    follow?_mono hdirs hfollow, Option.bind_some, follow?, if_pos (hdirs d hd), next_of_isName h.isName]
  rfl

theorem lookup?_of_descends (h : Prepared t path made d name) (ht : t.Sound) (hdescends : Descends path) :
    t.lookup? path = t.find? (d ++ [name]) := by
  obtain ⟨front, hparts⟩ := h.last
  obtain ⟨hd, -, -⟩ := follow?_makeDirectories (ht.start path) h.directories
  rw [Descends, hparts, List.mem_append, not_or, List.mem_singleton] at hdescends
  have hnames := (names_eq_concat hparts h.isStay_eq_false).1
  have hup : ".." ∉ names (parent path) := by
    rw [hnames]
    exact fun hmem => hdescends.1 (List.mem_filter.mp hmem).1
  have hplace : t.start path ++ front.filter (!isStay ·) = d := by
    rw [hd, reached_of_notMem hup, hnames, List.filter_filter]
    simp
  rw [lookup?, h.isEmpty_eq_false, h.isPath, Bool.not_true, Bool.or_self, if_neg Bool.false_ne_true, hparts,
    find?_follow? ht hdescends.1 h.isStay_eq_false (Ne.symm hdescends.2), hplace]

end Prepared

structure Written (t : FileTree) (path : String) (content : ByteArray) (t' : FileTree) : Prop where
  found : t'.lookup? path = some (.file content)
  others : ∀ q, q ≠ t.destination path →
    t'.find? q = t.find? q ∨ t.find? q = none ∧ t'.find? q = some .directory ∧ q ∈ t.way path
  fresh : t.contains path = false →
    t.find? (t.destination path) = none ∨ ¬ Descends path ∧ ∃ q, t.find? q = none ∧ t'.find? q = some .directory

theorem written_of_write (ht : t.Sound) (h : t.write path content = (t', true)) : Written t path content t' := by
  obtain ⟨made, d, name, hprepared, rfl⟩ := write_eq_true ht h
  have hdestination := hprepared.destination_eq ht
  have hhere : made.here = t.here := by
    have h := here_makeDirectories t (t.start path) (names (parent path))
    rwa [hprepared.directories] at h
  have hmade : ∀ q, made.find? q = t.find? q ∨
      t.find? q = none ∧ made.find? q = some .directory ∧ q ∈ passed (t.start path) (names (parent path)) := by
    intro q
    have h := find?_makeDirectories t (t.start path) (names (parent path)) q
    rwa [hprepared.directories] at h
  refine ⟨?found, ?others, ?fresh⟩
  case found =>
    have hwritten : (made.put (d ++ [name]) (.file content)).here = t.here := hhere
    rw [hprepared.lookup?_eq ht hwritten fun q => isDirectory_put hprepared.free, find?_put _ (by simp), if_pos rfl]
  case others =>
    intro q hq
    rw [hdestination] at hq
    rw [find?_put q (by simp), if_neg (Ne.symm hq)]
    rcases hmade q with hsame | ⟨hnone, hdir, hon⟩
    · exact .inl hsame
    · refine .inr ⟨hnone, hdir, ?_⟩
      rw [way, hprepared.names_eq]
      exact passed_subset_concat name hon
  case fresh =>
    intro hmissing
    rw [FileTree.contains, Option.isSome_eq_false_iff, Option.isNone_iff_eq_none] at hmissing
    rw [hdestination]
    by_cases hnew : ∃ q, t.find? q = none ∧ made.find? q = some .directory
    · by_cases hdescends : Descends path
      · exact .inl ((hprepared.lookup?_of_descends ht hdescends).symm.trans hmissing)
      · obtain ⟨q, hnone, hdir⟩ := hnew
        have hdir' := isDirectory_put (e := .file content) hprepared.free (isDirectory_iff.mpr hdir)
        exact .inr ⟨hdescends, q, hnone, isDirectory_iff.mp hdir'⟩
    · -- nothing had to be made, so the path leads where it did before
      have hsame : ∀ q, made.find? q = t.find? q := fun q =>
        (hmade q).resolve_right fun h => hnew ⟨q, h.1, h.2.1⟩
      have hdirs : ∀ q, made.isDirectory q = true → t.isDirectory q = true := fun q hq => by
        rwa [isDirectory_iff, hsame q, ← isDirectory_iff] at hq
      exact .inl ((hprepared.lookup?_eq ht rfl hdirs).symm.trans hmissing)

end FileTree

end AngularScaffold.Files
