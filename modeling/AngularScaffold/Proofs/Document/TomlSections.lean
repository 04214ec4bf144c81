import AngularScaffold.Document.Toml.Reader

/-!
Where the keys of a TOML document come from. Main statement: if no assignment is about one of some tables, each key in
such a table is the second key of a header that begins with the key of the table.
-/

namespace AngularScaffold.Document.Toml

abbrev Parts := List Assignment × List Section

def partsFrom? (k : Cursor) : Option Parts :=
  let k := skipMark k
  (readStatements? (k.rest.length + 1) k).map sections

def parts? (text : String) : Option Parts :=
  partsFrom? (Cursor.start text)

theorem read?_eq (text : String) : read? text = (parts? text).bind fun parts =>
    (assignAll parts.1 []).bind fun top => (addSections parts.2 top).bind fun fields =>
      some ⟨.toml, .table (toEntries fields) (.point 0), none⟩ := by
  rw [parts?, partsFrom?, Option.bind_map]
  rfl

def Header.keys (h : Header) : List Key :=
  h.path ++ [h.key]

def Assignment.first (a : Assignment) : Key :=
  a.path.headD a.key

variable {h : Header} {fill : Fields → Option Fields} {fields result : Fields} {k : Key}

theorem mem_update {change : Option Item → Option Item} (hu : update k change fields = some result) :
    ∀ e ∈ result, e ∈ fields ∨
      e.1.text = k.text ∧ ∃ prior, change prior = some e.2 ∧ ∀ i ∈ prior, (e.1, i) ∈ fields := by
  induction fields generalizing result with
  | nil =>
    obtain ⟨i, hi, rfl⟩ := Option.map_eq_some_iff.mp hu
    intro e he
    rw [List.mem_singleton.mp he]
    exact .inr ⟨rfl, none, hi, nofun⟩
  | cons f fields ih =>
    obtain ⟨j, i⟩ := f
    rw [update] at hu
    split at hu
    · rename_i hj
      obtain ⟨i', hi', rfl⟩ := Option.map_eq_some_iff.mp hu
      intro e he
      rcases List.mem_cons.mp he with rfl | he
      · refine .inr ⟨hj, some i, hi', ?_⟩
        intro x hx
        rw [← Option.some.inj hx]
        exact List.mem_cons_self
      · exact .inl (List.mem_cons_of_mem _ he)
    · obtain ⟨rest, hrest, rfl⟩ := Option.map_eq_some_iff.mp hu
      intro e he
      rcases List.mem_cons.mp he with rfl | he
      · exact .inl List.mem_cons_self
      · rcases ih hrest e he with hold | ⟨htext, prior, hprior, hin⟩
        · exact .inl (List.mem_cons_of_mem _ hold)
        · exact .inr ⟨htext, prior, hprior, fun x hx => List.mem_cons_of_mem _ (hin x hx)⟩

theorem mem_assign {path : List Key} {v : Node} (ha : assign path k v fields = some result) :
    ∀ e ∈ result, e ∈ fields ∨ e.1.text = (path.headD k).text := by
  intro e he
  cases path with
  | nil => exact (mem_update ha e he).imp_right And.left
  | cons p path => exact (mem_update ha e he).imp_right And.left

theorem mem_assignAll {assignments : List Assignment} (ha : assignAll assignments fields = some result) :
    ∀ e ∈ result, e ∈ fields ∨ ∃ a ∈ assignments, e.1.text = a.first.text := by
  induction assignments generalizing fields with
  | nil =>
    cases ha
    exact fun e he => .inl he
  | cons a rest ih =>
    obtain ⟨next, hnext, ha⟩ := Option.bind_eq_some_iff.mp ha
    intro e he
    rcases ih ha e he with hmid | ⟨b, hb, htext⟩
    · exact (mem_assign hnext e hmid).imp_right fun htext => ⟨a, List.mem_cons_self, htext⟩
    · exact .inr ⟨b, List.mem_cons_of_mem a hb, htext⟩

theorem mem_takeMentioned {mentioned others : Fields} (ht : takeMentioned k fields = some (mentioned, others)) :
    (∀ e ∈ others, e ∈ fields) ∧
      (mentioned = [] ∨ ∃ j span, j.text = k.text ∧ (j, .table .mentioned span mentioned) ∈ fields) := by
  induction fields generalizing others with
  | nil =>
    cases ht
    exact ⟨nofun, .inl rfl⟩
  | cons f fields ih =>
    obtain ⟨j, i⟩ := f
    unfold takeMentioned at ht
    split at ht
    · rename_i hj
      split at ht
      · cases ht
        exact ⟨fun e he => List.mem_cons_of_mem _ he, .inr ⟨j, _, hj, List.mem_cons_self⟩⟩
      · cases ht
    · obtain ⟨p, hp, hpair⟩ := Option.map_eq_some_iff.mp ht
      cases hpair
      obtain ⟨hothers, hmentioned⟩ := ih hp
      constructor
      · intro e he
        rcases List.mem_cons.mp he with rfl | he
        · exact List.mem_cons_self
        · exact List.mem_cons_of_mem _ (hothers e he)
      · refine hmentioned.imp_right ?_
        rintro ⟨j', span, htext, hin⟩
        exact ⟨j', span, htext, List.mem_cons_of_mem _ hin⟩

theorem mem_openTable {path : List Key} (ho : openTable h fill path fields = some result) :
    ∀ e ∈ result, e ∈ fields ∨ e.1.text = (path.headD h.key).text := by
  intro e he
  cases path with
  | cons p path => exact (mem_update ho e he).imp_right And.left
  | nil =>
    rw [openTable, openHere] at ho
    split at ho
    · exact (mem_update ho e he).imp_right And.left
    · obtain ⟨⟨mentioned, others⟩, ht, ho⟩ := Option.bind_eq_some_iff.mp ho
      obtain ⟨fs, -, ho⟩ := Option.bind_eq_some_iff.mp ho
      cases ho
      rcases List.mem_append.mp he with hold | hnew
      · exact .inl ((mem_takeMentioned ht).1 e hold)
      · rw [List.mem_singleton.mp hnew]
        exact .inr rfl

def Named (headers : List Header) (table name : String) : Prop :=
  ∃ h ∈ headers, ∃ first second deeper, h.keys = first :: second :: deeper ∧ first.text = table ∧ second.text = name

def Item.Traced (headers : List Header) (table : String) : Item → Prop
  | .value _ => False
  | .table _ _ fields => ∀ e ∈ fields, Named headers table e.1.text
  | .tables _ _ => True

def Traced (tables : List String) (headers : List Header) (fields : Fields) : Prop :=
  ∀ e ∈ fields, e.1.text ∈ tables → e.2.Traced headers e.1.text

variable {tables : List String} {headers : List Header}

theorem Named.mono {more : List Header} {table name : String} (hn : Named headers table name)
    (hsub : ∀ h ∈ headers, h ∈ more) : Named more table name := by
  obtain ⟨h, hh, hkeys⟩ := hn
  exact ⟨h, hsub h hh, hkeys⟩

theorem Item.Traced.mono {more : List Header} {table : String} {i : Item} (hi : i.Traced headers table)
    (hsub : ∀ h ∈ headers, h ∈ more) : i.Traced more table := by
  cases i with
  | value n => exact hi
  | table origin span fields => exact fun e he => (hi e he).mono hsub
  | tables span elements => exact hi

theorem Traced.mono {more : List Header} (ht : Traced tables headers fields)
    (hsub : ∀ h ∈ headers, h ∈ more) : Traced tables more fields :=
  fun e he htable => (ht e he htable).mono hsub

theorem named_of_path {p : Key} {path : List Key} (hh : h ∈ headers) (hpath : h.path = p :: path) :
    Named headers p.text (path.headD h.key).text := by
  refine ⟨h, hh, p, path.headD h.key, (path ++ [h.key]).tail, ?_, rfl, rfl⟩
  rw [Header.keys, hpath, List.cons_append]
  cases path <;> rfl

theorem Traced.openHere (ht : Traced tables headers fields) (hfill : h.key.text ∈ tables → ∀ fs, fill fs = some fs)
    (ho : openHere h fill fields = some result) : Traced tables headers result := by
  intro e he htable
  rw [Toml.openHere] at ho
  split at ho
  · rcases mem_update ho e he with hold | ⟨-, prior, hprior, -⟩
    · exact ht e hold htable
    · cases prior with
      | none =>
        obtain ⟨fs, -, hitem⟩ := Option.map_eq_some_iff.mp hprior
        rw [← hitem]
        trivial
      | some i =>
        cases i with
        | tables span elements =>
          obtain ⟨fs, -, hitem⟩ := Option.map_eq_some_iff.mp hprior
          rw [← hitem]
          trivial
        | value n => cases hprior
        | table origin span inner => cases hprior
  · obtain ⟨⟨mentioned, others⟩, htake, ho⟩ := Option.bind_eq_some_iff.mp ho
    obtain ⟨fs, hfs, ho⟩ := Option.bind_eq_some_iff.mp ho
    cases ho
    obtain ⟨hothers, hmentioned⟩ := mem_takeMentioned htake
    rcases List.mem_append.mp he with hold | hnew
    · exact ht e (hothers e hold) htable
    · rw [List.mem_singleton] at hnew
      subst hnew
      rw [hfill htable] at hfs
      cases hfs
      rcases hmentioned with rfl | ⟨j, span, htext, hin⟩
      · exact nofun
      · have hold := ht _ hin (htext ▸ htable)
        rw [htext] at hold
        exact hold

theorem Traced.openBelow {p : Key} {path : List Key} (ht : Traced tables headers fields) (hh : h ∈ headers)
    (hpath : h.path = p :: path) (ho : openTable h fill (p :: path) fields = some result) :
    Traced tables headers result := by
  intro e he htable
  rcases mem_update ho e he with hold | ⟨htext, prior, hprior, hin⟩
  · exact ht e hold htable
  · have hnew := named_of_path hh hpath
    rw [← htext] at hnew
    cases prior with
    | none =>
      obtain ⟨inner, hinner, hitem⟩ := Option.map_eq_some_iff.mp hprior
      rw [← hitem]
      intro e' he'
      rcases mem_openTable hinner e' he' with hold | hkey
      · cases hold
      · rwa [hkey]
    | some i =>
      have hi := ht _ (hin i rfl) htable
      cases i with
      | value n => exact hi.elim
      | tables span elements =>
        obtain ⟨inner, -, hitem⟩ := Option.map_eq_some_iff.mp hprior
        rw [← hitem]
        trivial
      | table origin span inner =>
        obtain ⟨inner', hinner, hitem⟩ := Option.map_eq_some_iff.mp hprior
        rw [← hitem]
        intro e' he'
        rcases mem_openTable hinner e' he' with hold | hkey
        · exact hi e' hold
        · rwa [hkey]

theorem Traced.openTable (ht : Traced tables headers fields) (hh : h ∈ headers)
    (hfill : h.path = [] → h.key.text ∈ tables → ∀ fs, fill fs = some fs)
    (ho : openTable h fill h.path fields = some result) : Traced tables headers result := by
  cases hpath : h.path with
  | nil =>
    rw [hpath] at ho
    exact ht.openHere (hfill hpath) ho
  | cons p path =>
    rw [hpath] at ho
    exact ht.openBelow hh hpath ho

/-- No assignment is about a key of one of the tables: none in front of the headers, and none right under a header of
one key. -/
structure ByHeaders (tables : List String) (parts : Parts) : Prop where
  top : ∀ a ∈ parts.1, a.first.text ∉ tables
  bare : ∀ s ∈ parts.2, s.1.path = [] → s.1.key.text ∈ tables → s.2 = []

instance (parts : Parts) : Decidable (ByHeaders tables parts) :=
  decidable_of_iff ((∀ a ∈ parts.1, a.first.text ∉ tables) ∧
    ∀ s ∈ parts.2, s.1.path = [] → s.1.key.text ∈ tables → s.2 = [])
    ⟨fun h => ⟨h.1, h.2⟩, fun h => ⟨h.top, h.bare⟩⟩

theorem Traced.addSections {added : List Section}
    (hbare : ∀ s ∈ added, s.1.path = [] → s.1.key.text ∈ tables → s.2 = []) (ht : Traced tables headers fields)
    (ha : addSections added fields = some result) :
    Traced tables (headers ++ added.map Prod.fst) result := by
  induction added generalizing headers fields with
  | nil =>
    cases ha
    rwa [List.map_nil, List.append_nil]
  | cons s added ih =>
    obtain ⟨hs, hmore⟩ := List.forall_mem_cons.mp hbare
    obtain ⟨next, hnext, ha⟩ := Option.bind_eq_some_iff.mp ha
    have hfill : s.1.path = [] → s.1.key.text ∈ tables → ∀ fs, assignAll s.2 fs = some fs := by
      intro hpath hkey fs
      rw [hs hpath hkey]
      rfl
    have hopened : Traced tables (headers ++ [s.1]) next :=
      (ht.mono fun _ => List.mem_append_left _).openTable (List.mem_append_right _ List.mem_cons_self) hfill hnext
    have hall := ih hmore hopened ha
    rwa [List.append_assoc, List.singleton_append] at hall

theorem exists_traced {text : String} {s : Source} {parts : Parts} (hread : read? text = some s)
    (hparts : parts? text = some parts) (hby : ByHeaders tables parts) :
    ∃ fields, s = ⟨.toml, .table (toEntries fields) (.point 0), none⟩ ∧
      Traced tables (parts.2.map Prod.fst) fields := by
  rw [read?_eq, hparts, Option.bind_some] at hread
  obtain ⟨top, htop, hread⟩ := Option.bind_eq_some_iff.mp hread
  obtain ⟨fields, hfields, hs⟩ := Option.bind_eq_some_iff.mp hread
  have hnone : Traced tables [] top := by
    intro e he htable
    rcases mem_assignAll htop e he with hold | ⟨a, ha, htext⟩
    · cases hold
    · exact absurd (htext ▸ htable) (hby.top a ha)
  refine ⟨fields, (Option.some.inj hs).symm, ?_⟩
  exact hnone.addSections hby.bare hfields

end AngularScaffold.Document.Toml
