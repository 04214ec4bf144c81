import AngularScaffold.Files.Tree
import AngularScaffold.Proofs.Files.JoinedPath
import Mathlib.Data.List.Induction

/-!
File systems in which every entry stands in a directory. Main statements: writing keeps them so, a path that
descends leads to the place that its names spell, and writing a file changes no place but that of the file,
apart from creating directories that lead to it.
-/

namespace AngularScaffold.Files

namespace FileTree

def Rooted (t : FileTree) : Prop :=
  ∀ place name, (t.find? (place ++ [name])).isSome → t.isDirectory place = true

structure Sound (t : FileTree) : Prop where
  here : t.isDirectory t.here = true
  rooted : t.Rooted

variable {t t' : FileTree} {place : Place} {name : String}

theorem isDirectory_iff : t.isDirectory place = true ↔ t.find? place = some .directory := by
  unfold isDirectory
  cases t.find? place with
  | none => simp
  | some e => cases e <;> simp

theorem isDirectory_root (t : FileTree) : t.isDirectory [] = true :=
  isDirectory_iff.mpr rfl

theorem Rooted.isDirectory_of_append (ht : t.Rooted) {rest : Place} (h : t.isDirectory (place ++ rest) = true) :
    t.isDirectory place = true := by
  induction rest using List.reverseRecOn with
  | nil => rwa [List.append_nil] at h
  | append_singleton rest name ih =>
    apply ih
    rw [← List.append_assoc, isDirectory_iff] at h
    apply ht _ name
    rw [h]
    rfl

theorem Sound.start (ht : t.Sound) (path : String) : t.isDirectory (t.start path) = true := by
  rw [FileTree.start]
  split
  · exact isDirectory_root t
  · exact ht.here

theorem next_of_isStay {part : String} (h : isStay part = true) : place.next part = place := by
  rw [Place.next, if_pos h]

theorem next_of_name {part : String} (h : isStay part = false) (hup : part ≠ "..") :
    place.next part = place ++ [part] := by
  rw [Place.next, if_neg (by simp [h]), if_neg (by simp [hup])]

theorem next_of_isName {part : String} (h : isName part = true) : place.next part = place ++ [part] := by
  simp only [isName, Bool.and_eq_true, Bool.not_eq_true', bne_iff_ne] at h
  exact next_of_name h.1.1 h.1.2

theorem next_append {part : String} (hup : part ≠ "..") (rest : List String) :
    place.next part ++ rest.filter (!isStay ·) = place ++ (part :: rest).filter (!isStay ·) := by
  cases h : isStay part with
  | true => rw [next_of_isStay h, List.filter_cons_of_neg (by simp [h])]
  | false => rw [next_of_name h hup, List.filter_cons_of_pos (by simp [h]), List.append_assoc, List.singleton_append]

/-! ### What changes -/

/-- All places but the given ones hold what they held, or else they are new directories on the way to `target`. -/
structure Frame (target : Place) (changed : List Place) (t t' : FileTree) : Prop where
  here : t'.here = t.here
  others : ∀ q, q ∉ changed →
    t'.find? q = t.find? q ∨ t.find? q = none ∧ t'.find? q = some .directory ∧ q <+: target

variable {target : Place} {changed more : List Place}

theorem Frame.refl (target : Place) (t : FileTree) : Frame target [] t t :=
  ⟨rfl, fun _ _ => .inl rfl⟩

theorem Frame.trans {t'' : FileTree} (h : Frame target changed t t') (h' : Frame target more t' t'') :
    Frame target (changed ++ more) t t'' := by
  refine ⟨h'.here.trans h.here, fun q hq => ?_⟩
  rw [List.mem_append, not_or] at hq
  rcases h.others q hq.1 with hsame | ⟨hnone, hdirectory, hon⟩
  · rw [← hsame]
    exact h'.others q hq.2
  · rcases h'.others q hq.2 with hsame' | ⟨hnone', -, -⟩
    · exact .inr ⟨hnone, hsame'.trans hdirectory, hon⟩
    · rw [hdirectory] at hnone'
      cases hnone'

theorem Frame.content? (h : Frame target changed t t') {q : Place} (hq : q ∉ changed) :
    t'.content? q = t.content? q := by
  unfold FileTree.content?
  rcases h.others q hq with hsame | ⟨hnone, hdirectory, -⟩
  · rw [hsame]
  · rw [hnone, hdirectory]

theorem Frame.find?_below (h : Frame target changed t t') (hq : target ++ [name] ∉ changed) :
    t'.find? (target ++ [name]) = t.find? (target ++ [name]) := by
  rcases h.others _ hq with hsame | ⟨-, -, hon⟩
  · exact hsame
  · have hle := hon.length_le
    rw [List.length_append, List.length_singleton] at hle
    omega

/-! ### Entries that are put -/

section Put

variable {e : Entry}

theorem isDirectory_put (hnot : t.isDirectory (place ++ [name]) = false) {q : Place} (hq : t.isDirectory q = true) :
    (t.put (place ++ [name]) e).isDirectory q = true := by
  have hne : place ++ [name] ≠ q := by
    rintro rfl
    rw [hnot] at hq
    cases hq
  rw [isDirectory_iff, find?_put q (by simp), if_neg hne]
  exact isDirectory_iff.mp hq

theorem Rooted.put (ht : t.Rooted) (hplace : t.isDirectory place = true)
    (hnot : t.isDirectory (place ++ [name]) = false) : (t.put (place ++ [name]) e).Rooted := by
  intro q n hq
  apply isDirectory_put hnot
  by_cases he : place ++ [name] = q ++ [n]
  · rwa [← (List.append_inj' he rfl).1]
  · rw [find?_put _ (by simp), if_neg he] at hq
    exact ht q n hq

theorem frame_put (target : Place) : Frame target [place ++ [name]] t (t.put (place ++ [name]) e) := by
  refine ⟨rfl, fun q hq => .inl ?_⟩
  rw [List.mem_singleton] at hq
  rw [find?_put q (by simp), if_neg (Ne.symm hq)]

theorem frame_put_directory (hnew : t.find? (place ++ [name]) = none) (hon : place ++ [name] <+: target) :
    Frame target [] t (t.put (place ++ [name]) .directory) := by
  refine ⟨rfl, fun q _ => ?_⟩
  rw [find?_put q (by simp)]
  by_cases he : place ++ [name] = q
  · subst he
    exact .inr ⟨hnew, if_pos rfl, hon⟩
  · exact .inl (if_neg he)

end Put

/-! ### Making directories -/

theorem isDirectory_of_none (h : t.find? place = none) : t.isDirectory place = false := by
  rw [isDirectory, h]

theorem rooted_makeDirectories (ht : t.Rooted) (hplace : t.isDirectory place = true) (ps : List String) :
    (t.makeDirectories place ps).1.Rooted ∧
      ∀ d, (t.makeDirectories place ps).2 = some d → (t.makeDirectories place ps).1.isDirectory d = true := by
  induction ps generalizing t place with
  | nil =>
    refine ⟨ht, fun d hd => ?_⟩
    rwa [← Option.some.inj hd]
  | cons part rest ih =>
    rw [makeDirectories]
    split
    · rename_i hfound
      exact ih ht (isDirectory_iff.mpr hfound)
    · exact ⟨ht, fun d hd => by cases hd⟩
    · rename_i hnew
      split
      · rename_i hname
        rw [next_of_isName hname] at hnew ⊢
        have hnot := isDirectory_of_none hnew
        have hmade : (t.put (place ++ [part]) .directory).isDirectory (place ++ [part]) = true := by
          rw [isDirectory_iff, find?_put _ (by simp), if_pos rfl]
        exact ih (ht.put hplace hnot) hmade
      · exact ⟨ht, fun d hd => by cases hd⟩

theorem isDirectory_makeDirectories {q : Place} (hq : t.isDirectory q = true) (place : Place) (ps : List String) :
    (t.makeDirectories place ps).1.isDirectory q = true := by
  induction ps generalizing t place with
  | nil => exact hq
  | cons part rest ih =>
    rw [makeDirectories]
    split
    · exact ih hq _
    · exact hq
    · rename_i hnew
      split
      · rename_i hname
        rw [next_of_isName hname] at hnew ⊢
        exact ih (isDirectory_put (isDirectory_of_none hnew) hq) _
      · exact hq

theorem here_makeDirectories (t : FileTree) (place : Place) (ps : List String) :
    (t.makeDirectories place ps).1.here = t.here := by
  induction ps generalizing t place with
  | nil => rfl
  | cons part rest ih =>
    rw [makeDirectories]
    split
    · exact ih t _
    · rfl
    · split
      · exact ih _ _
      · rfl

theorem Sound.makeDirectories (ht : t.Sound) (hplace : t.isDirectory place = true) (ps : List String) :
    (t.makeDirectories place ps).1.Sound := by
  refine ⟨?_, (rooted_makeDirectories ht.rooted hplace ps).1⟩
  rw [here_makeDirectories]
  exact isDirectory_makeDirectories ht.here place ps

theorem frame_makeDirectories (t : FileTree) (place : Place) {ps : List String} (hup : ".." ∉ ps) :
    Frame (place ++ ps.filter (!isStay ·)) [] t (t.makeDirectories place ps).1 ∧
      ∀ d, (t.makeDirectories place ps).2 = some d → d = place ++ ps.filter (!isStay ·) := by
  induction ps generalizing t place with
  | nil =>
    refine ⟨Frame.refl _ _, fun d hd => ?_⟩
    rw [← Option.some.inj hd]
    simp
  | cons part rest ih =>
    rw [List.mem_cons, not_or] at hup
    have hnext : place.next part ++ rest.filter (!isStay ·) = place ++ (part :: rest).filter (!isStay ·) :=
      next_append (Ne.symm hup.1) rest
    rw [makeDirectories]
    split
    · rw [← hnext]
      exact ih t _ hup.2
    · exact ⟨Frame.refl _ _, fun d hd => by cases hd⟩
    · rename_i hnew
      split
      · rename_i hname
        rw [next_of_isName hname] at hnew hnext ⊢
        obtain ⟨hframe, hplace⟩ := ih (t.put (place ++ [part]) .directory) (place ++ [part]) hup.2
        rw [hnext] at hframe hplace
        have hon : place ++ [part] <+: place ++ (part :: rest).filter (!isStay ·) := hnext ▸ List.prefix_append _ _
        exact ⟨(frame_put_directory hnew hon).trans hframe, hplace⟩
      · exact ⟨Frame.refl _ _, fun d hd => by cases hd⟩

/-! ### Writing -/

theorem Sound.writeAt (ht : t.Sound) (hplace : t.isDirectory place = true) (content : ByteArray) :
    (t.writeAt place name content).1.Sound := by
  unfold FileTree.writeAt
  split
  · rename_i h
    have hnot : t.isDirectory (place ++ [name]) = false := by
      rw [Bool.and_eq_true, Bool.not_eq_true'] at h
      exact h.2
    exact ⟨isDirectory_put hnot ht.here, ht.rooted.put hplace hnot⟩
  · exact ht

theorem Sound.write (ht : t.Sound) (path : String) (content : ByteArray) : (t.write path content).1.Sound := by
  have hsound := ht.makeDirectories (ht.start path) (parts (parent path))
  obtain ⟨-, hplace⟩ := rooted_makeDirectories ht.rooted (ht.start path) (parts (parent path))
  unfold FileTree.write
  split
  · exact ht
  · split
    · rename_i hmade
      rw [hmade] at hsound
      exact hsound
    · rename_i made d hmade
      rw [hmade] at hsound hplace
      split
      · exact hsound.writeAt (hplace d rfl) content
      · exact hsound

theorem makeDirectories_of_names (hfiles : ∀ q, t.content? q = none) {ps : List String}
    (hnames : ∀ part ∈ ps, isName part = true) (place : Place) :
    (t.makeDirectories place ps).2 = some (place ++ ps) := by
  induction ps generalizing t place with
  | nil => rw [FileTree.makeDirectories, List.append_nil]
  | cons part rest ih =>
    have hnext : place.next part = place ++ [part] := next_of_isName (hnames part List.mem_cons_self)
    have hrest := fun p hp => hnames p (List.mem_cons_of_mem _ hp)
    rw [FileTree.makeDirectories, hnext]
    split
    · rw [ih hfiles hrest, List.append_assoc, List.singleton_append]
    · rename_i content hfound
      have hfile := hfiles (place ++ [part])
      rw [FileTree.content?, hfound] at hfile
      cases hfile
    · rename_i hnew
      have hstill : ∀ q, (t.put (place ++ [part]) .directory).content? q = none := fun q => by
        rw [content?_put_directory q hnew, hfiles]
      rw [if_pos (hnames part List.mem_cons_self), ih hstill hrest, List.append_assoc, List.singleton_append]

theorem sound_ofFiles {here : Place} (hhere : ∀ part ∈ here, isName part = true) (files : List (String × ByteArray)) :
    (ofFiles here files).Sound := by
  have hrooted : (⟨here, []⟩ : FileTree).Rooted := by
    intro place name h
    simp [find?, Pairs.get?] at h
  have hfiles : ∀ q, (⟨here, []⟩ : FileTree).content? q = none := by
    intro q
    cases q <;> simp [FileTree.content?, find?, Pairs.get?]
  have hempty : (empty here).Sound := by
    obtain ⟨hmade, hplace⟩ := rooted_makeDirectories hrooted (isDirectory_root _) here
    refine ⟨?_, hmade⟩
    rw [empty, here_makeDirectories]
    exact hplace here (by rw [makeDirectories_of_names hfiles hhere, List.nil_append])
  unfold ofFiles
  induction files using List.reverseRecOn with
  | nil => exact hempty
  | append_singleton files f ih =>
    rw [List.foldl_append]
    exact ih.write f.1 f.2

/-! ### Paths that descend -/

def placeOf (t : FileTree) (path : String) : Place :=
  t.start path ++ names path

theorem follow?_append (t : FileTree) (place : Place) (ps qs : List String) :
    t.follow? place (ps ++ qs) = (t.follow? place ps).bind fun q => t.follow? q qs := by
  induction ps generalizing place with
  | nil => rfl
  | cons part rest ih =>
    rw [List.cons_append, follow?, follow?]
    split
    · exact ih _
    · rfl

theorem eq_of_follow? {ps : List String} (hup : ".." ∉ ps) {q : Place} (h : t.follow? place ps = some q) :
    q = place ++ ps.filter (!isStay ·) := by
  induction ps generalizing place with
  | nil =>
    rw [← Option.some.inj h]
    simp
  | cons part rest ih =>
    rw [List.mem_cons, not_or] at hup
    rw [follow?] at h
    split at h
    · rw [← next_append (Ne.symm hup.1)]
      exact ih hup.2 h
    · cases h

theorem follow?_of_isDirectory (ht : t.Sound) {ps : List String} (hup : ".." ∉ ps)
    (h : t.isDirectory (place ++ ps.filter (!isStay ·)) = true) :
    t.follow? place ps = some (place ++ ps.filter (!isStay ·)) := by
  induction ps generalizing place with
  | nil => simp [follow?]
  | cons part rest ih =>
    rw [List.mem_cons, not_or] at hup
    rw [follow?, if_pos (ht.rooted.isDirectory_of_append h), ← next_append (Ne.symm hup.1)]
    rw [← next_append (Ne.symm hup.1)] at h
    exact ih hup.2 h

theorem find?_follow? (ht : t.Sound) {front : List String} (hup : ".." ∉ front) (hstay : isStay name = false)
    (hname : name ≠ "..") : (t.follow? place (front ++ [name])).bind t.find? =
      t.find? (place ++ front.filter (!isStay ·) ++ [name]) := by
  rw [follow?_append]
  by_cases hdir : t.isDirectory (place ++ front.filter (!isStay ·)) = true
  · rw [follow?_of_isDirectory ht hup hdir, Option.bind_some, follow?, if_pos hdir, next_of_name hstay hname]
    rfl
  · have hnone : t.find? (place ++ front.filter (!isStay ·) ++ [name]) = none := by
      by_contra hsome
      exact hdir (ht.rooted _ name (Option.isSome_iff_ne_none.mpr hsome))
    rw [hnone]
    cases hfollow : t.follow? place front with
    | none => rfl
    | some q =>
      rw [eq_of_follow? hup hfollow, Option.bind_some, follow?, if_neg hdir]
      rfl

section Joined

variable {directory : String} (hdescends : Descends directory) (hflat : '/' ∉ name.toList)
  (hstay : isStay name = false) (hname : name ≠ "..")
include hflat

theorem start_join (t : FileTree) : t.start (join directory name) = t.start directory := by
  rw [FileTree.start, FileTree.start, isAbsolute_join hflat]

include hstay in
theorem placeOf_join (t : FileTree) : t.placeOf (join directory name) = t.placeOf directory ++ [name] := by
  obtain ⟨front, hjoined⟩ := exists_joinedTo directory hflat
  rw [placeOf, placeOf, start_join hflat, names, hjoined.parts_eq, List.filter_append, hjoined.names_eq,
    List.filter_cons_of_pos (by simp [hstay]), List.filter_nil, List.append_assoc]

include hstay in
theorem join_ne_empty : (join directory name).isEmpty = false := by
  obtain ⟨front, hjoined⟩ := exists_joinedTo directory hflat
  rw [Bool.eq_false_iff]
  intro hempty
  have hparts := hjoined.parts_eq
  rw [String.isEmpty_iff.mp hempty] at hparts
  have hlast : [""].getLast? = some name := by
    rw [show [""] = front ++ [name] from hparts, List.getLast?_concat]
  rw [← Option.some.inj hlast] at hstay
  cases hstay

include hdescends hstay hname in
theorem lookup?_join (ht : t.Sound) : t.lookup? (join directory name) =
    if isPath (join directory name) then t.find? (t.placeOf (join directory name)) else none := by
  obtain ⟨front, hjoined⟩ := exists_joinedTo directory hflat
  have hup : ".." ∉ front := fun hmem => hdescends (hjoined.subset _ hmem)
  rw [lookup?, join_ne_empty hflat hstay, Bool.false_or, placeOf_join hflat hstay]
  cases isPath (join directory name) with
  | false => rfl
  | true =>
    rw [start_join hflat, hjoined.parts_eq, Bool.not_true, if_neg Bool.false_ne_true, if_pos rfl,
      find?_follow? ht hup hstay hname, hjoined.names_eq, placeOf]

inductive WriteOutcome (t : FileTree) (directory path : String) (content : ByteArray) : FileTree × Bool → Prop
  | written {t' : FileTree} : isPath path = true → t'.find? (t.placeOf path) = some (.file content) →
      Frame (t.placeOf directory) [t.placeOf path] t t' → WriteOutcome t directory path content (t', true)
  | failed {t' : FileTree} : Frame (t.placeOf directory) [] t t' → WriteOutcome t directory path content (t', false)

include hdescends hstay in
theorem writeOutcome_join (t : FileTree) (content : ByteArray) :
    WriteOutcome t directory (join directory name) content (t.write (join directory name) content) := by
  obtain ⟨front, hjoined⟩ := exists_joinedTo directory hflat
  obtain ⟨hnames, hup⟩ := names_parent hjoined hstay
  obtain ⟨hframe, hplace⟩ := frame_makeDirectories t (t.start directory) (hup hdescends)
  have htarget : t.start directory ++ (parts (parent (join directory name))).filter (!isStay ·) =
      t.placeOf directory := congrArg _ hnames
  have hlast : (parts (join directory name)).getLastD "" = name := by
    rw [hjoined.parts_eq]
    simp
  rw [htarget] at hframe hplace
  unfold write
  rw [start_join hflat, hlast]
  split
  · exact .failed (Frame.refl _ t)
  split
  · rename_i hmade
    rw [hmade] at hframe
    exact .failed hframe
  rename_i made d hmade
  rw [hmade] at hframe hplace
  obtain rfl := hplace d rfl
  split
  · rename_i hpath
    unfold writeAt
    split
    · refine .written hpath ?_ ?_
      · rw [placeOf_join hflat hstay, find?_put _ (by simp), if_pos rfl]
      · rw [placeOf_join hflat hstay]
        exact hframe.trans (frame_put _)
    · exact .failed hframe
  · exact .failed hframe

end Joined

end FileTree

end AngularScaffold.Files
