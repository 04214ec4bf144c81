import AngularScaffold.Files.Path
import AngularScaffold.OrderedMap
import AngularScaffold.Text.Bytes

/-!
File systems in memory. A path is followed part by part through directories, and writing a file creates
the directories that lead to it.
-/

namespace AngularScaffold.Files

inductive Entry where
  | directory
  | file (content : ByteArray)

abbrev Place := List String

structure FileTree where
  here : Place
  entries : List (Place × Entry)

def isPath (path : String) : Bool :=
  -- limits of the file system
  decide (Text.byteLength path.toList < 4096) && path.toList.all (· != Char.ofNat 0)

def isName (part : String) : Bool :=
  !isStay part && part != ".." && decide (Text.byteLength part.toList ≤ 255)

def Place.next (place : Place) (part : String) : Place :=
  if isStay part then place
  else if part == ".." then place.dropLast
  else place ++ [part]

namespace FileTree

def find? (t : FileTree) (place : Place) : Option Entry :=
  if place.isEmpty then some .directory else Pairs.get? place t.entries

def content? (t : FileTree) (place : Place) : Option ByteArray :=
  match t.find? place with
  | some (.file content) => some content
  | _ => none

def isDirectory (t : FileTree) (place : Place) : Bool :=
  match t.find? place with
  | some .directory => true
  | _ => false

def put (t : FileTree) (place : Place) (e : Entry) : FileTree :=
  ⟨t.here, Pairs.put place e t.entries⟩

def start (t : FileTree) (path : String) : Place :=
  if isAbsolute path then [] else t.here

def follow? (t : FileTree) (place : Place) : List String → Option Place
  | [] => some place
  | part :: rest => if t.isDirectory place then t.follow? (place.next part) rest else none

def lookup? (t : FileTree) (path : String) : Option Entry :=
  if path.isEmpty || !isPath path then none else (t.follow? (t.start path) (parts path)).bind t.find?

def contains (t : FileTree) (path : String) : Bool :=
  (t.lookup? path).isSome

def read? (t : FileTree) (path : String) : Option ByteArray :=
  match t.lookup? path with
  | some (.file content) => some content
  | _ => none

def makeDirectories (t : FileTree) (place : Place) : List String → FileTree × Option Place
  | [] => (t, some place)
  | part :: rest =>
    match t.find? (place.next part) with
    | some .directory => t.makeDirectories (place.next part) rest
    | some (.file _) => (t, none)
    | none =>
      if isName part then (t.put (place.next part) .directory).makeDirectories (place.next part) rest
      else (t, none)

def writeAt (t : FileTree) (directory : Place) (name : String) (content : ByteArray) : FileTree × Bool :=
  if isName name && !t.isDirectory (directory ++ [name]) then
    (t.put (directory ++ [name]) (.file content), true)
  else (t, false)

def write (t : FileTree) (path : String) (content : ByteArray) : FileTree × Bool :=
  -- directories are created even if the file cannot be written, unless their own path is none
  if !isPath (parent path) then (t, false)
  else match t.makeDirectories (t.start path) (parts (parent path)) with
    | (t, none) => (t, false)
    | (t, some directory) =>
      if isPath path then t.writeAt directory ((parts path).getLastD "") content else (t, false)

def empty (here : Place) : FileTree :=
  ((⟨here, []⟩ : FileTree).makeDirectories [] here).1

def ofFiles (here : Place) (files : List (String × ByteArray)) : FileTree :=
  files.foldl (fun t f => (t.write f.1 f.2).1) (empty here)

def files (t : FileTree) : List (String × ByteArray) :=
  t.entries.filterMap fun e => match t.here.isPrefixOf? e.1, e.2 with
    | some names, .file content => some ("/".intercalate names, content)
    | _, _ => none

theorem find?_put {t : FileTree} {place : Place} {e : Entry} (other : Place) (h : place ≠ []) :
    (t.put place e).find? other = if place = other then some e else t.find? other := by
  unfold find? put
  simp only [Pairs.get?_put]
  cases other with
  | nil => simp [h]
  | cons => simp

theorem content?_put_directory {t : FileTree} {place : Place} (other : Place)
    (h : t.find? place = none) : (t.put place .directory).content? other = t.content? other := by
  have hp : place ≠ [] := by
    rintro rfl
    simp [find?] at h
  unfold content?
  rw [find?_put other hp]
  by_cases e : place = other
  · subst e
    simp [h]
  · simp [e]

end FileTree

end AngularScaffold.Files
