import AngularScaffold.Document.Node

/-!
Putting tables together from keys with dots and from headers. A table that a header or a value has
defined is closed to keys with dots; a table that was only mentioned on the way to another one may still
get its own header, once, and then stands where that header stands. Whoever goes through a list of tables
means its last one.
-/

namespace AngularScaffold.Document.Toml

structure Key where
  text : String
  span : Span

inductive Origin where
  | header
  | mentioned
  | dotted
  deriving DecidableEq

inductive Item where
  | value (node : Node)
  | table (origin : Origin) (span : Span) (fields : List (Key × Item))
  | tables (span : Span) (elements : List (Span × List (Key × Item)))

abbrev Fields := List (Key × Item)

def update (k : Key) (change : Option Item → Option Item) : Fields → Option Fields
  | [] => (change none).map fun i => [(k, i)]
  | (j, i) :: rest =>
    if j.text = k.text then (change (some i)).map fun i => (j, i) :: rest
    else (update k change rest).map ((j, i) :: ·)

def define (k : Key) (v : Node) : Fields → Option Fields :=
  update k fun
    | none => some (.value v)
    | some _ => none

def changeLast (change : Fields → Option Fields) :
    List (Span × Fields) → Option (List (Span × Fields))
  | [] => none
  | [(s, fs)] => (change fs).map fun fs => [(s, fs)]
  | e :: f :: rest => (changeLast change (f :: rest)).map (e :: ·)

def assign : List Key → Key → Node → Fields → Option Fields
  -- `path` stands in front of the last dot; the value itself goes into a table that a key with dots has made
  | [], k, v => define k v
  | p :: path, k, v => update p fun
    | none => (assign path k v []).map (.table .dotted p.span)
    | some (.table origin span fields) =>
      if origin = .header || (path.isEmpty && origin != .dotted) then none
      else (assign path k v fields).map (.table origin span)
    | some (.tables span elements) =>
      if path.isEmpty then none else (changeLast (assign path k v) elements).map (.tables span)
    | some (.value _) => none

structure Assignment where
  path : List Key
  key : Key
  value : Node

def assignAll : List Assignment → Fields → Option Fields
  | [], fields => some fields
  | a :: rest, fields => (assign a.path a.key a.value fields).bind (assignAll rest)

structure Header where
  isElement : Bool
  path : List Key
  key : Key
  span : Span

def openElement (h : Header) (fill : Fields → Option Fields) : Option Item → Option Item
  | none => (fill []).map fun fs => .tables h.span [(h.span, fs)]
  | some (.tables span elements) => (fill []).map fun fs => .tables span (elements ++ [(h.span, fs)])
  | some _ => none

def takeMentioned (k : Key) : Fields → Option (Fields × Fields)
  | [] => some ([], [])
  | (j, i) :: rest =>
    if j.text = k.text then
      match i with
      | .table .mentioned _ fields => some (fields, rest)
      | _ => none
    else (takeMentioned k rest).map fun p => (p.1, (j, i) :: p.2)

def openHere (h : Header) (fill : Fields → Option Fields) (fields : Fields) : Option Fields :=
  -- a table that was mentioned before moves to the end
  if h.isElement then update h.key (openElement h fill) fields
  else do
    let (mentioned, others) ← takeMentioned h.key fields
    let fs ← fill mentioned
    pure (others ++ [(h.key, .table .header h.span fs)])

def openTable (h : Header) (fill : Fields → Option Fields) : List Key → Fields → Option Fields
  | [] => openHere h fill
  | p :: path => update p fun
    | none => (openTable h fill path []).map (.table .mentioned p.span)
    | some (.table origin span fields) => (openTable h fill path fields).map (.table origin span)
    | some (.tables span elements) =>
      (changeLast (openTable h fill path) elements).map (.tables span)
    | some (.value _) => none

abbrev Section := Header × List Assignment

def addSections : List Section → Fields → Option Fields
  | [], fields => some fields
  | (h, as) :: rest, fields => (openTable h (assignAll as) h.path fields).bind (addSections rest)

mutual

def Item.toNode : Item → Node
  | .value n => n
  | .table _ span fields => .table (toEntries fields) span
  | .tables span elements => .list (toItems elements) span

def toEntries : List (Key × Item) → Entries
  | [] => .nil
  | (k, i) :: rest => .cons k.text k.span i.toNode (toEntries rest)

def toItems : List (Span × List (Key × Item)) → Items
  | [] => .nil
  | (s, fields) :: rest => .cons (.table (toEntries fields) s) (toItems rest)

end

end AngularScaffold.Document.Toml
