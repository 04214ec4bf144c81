import AngularScaffold.Proofs.Angular.PropertyLines
import AngularScaffold.Proofs.TypeScript.ImportLines

namespace AngularScaffold

namespace Layout

def indented (i : Indent) (level : Nat) (text : String) : List Char :=
  (String.join (List.replicate level i.unit) ++ text).toList

def unindented? (i : Indent) : Nat → List Char → Option (List Char)
  | 0, l => some l
  | level + 1, l => (TypeScript.expect? i.unit l).bind (unindented? i level)

theorem unindented?_indented (i : Indent) (level : Nat) (text : String) :
    unindented? i level (indented i level text) = some text.toList := by
  induction level with
  | zero => simp [unindented?, indented]
  | succ level ih =>
    have hline : indented i (level + 1) text = i.unit.toList ++ indented i level text := by
      simp [indented, List.replicate_succ, String.join_cons, String.append_assoc]
    rw [hline, unindented?, TypeScript.expect?_append, Option.bind_some, ih]

def readLines? : List Char → Option (List (List Char))
  | [] => some []
  | c :: cs =>
    if c = '\n' then (readLines? cs).map ([] :: ·)
    else match readLines? cs with
      | some (l :: ls) => some ((c :: l) :: ls)
      | _ => none

theorem newline_notMem_indented (i : Indent) (level : Nat) {text : String} (h : '\n' ∉ text.toList) :
    '\n' ∉ indented i level text := by
  have hunit : '\n' ∉ i.unit.toList := by
    unfold Indent.unit
    split <;> simp
  rw [indented, String.toList_append, List.mem_append, not_or]
  refine ⟨?_, h⟩
  simp only [String.toList_join, List.mem_flatMap, not_exists, not_and]
  intro s hs
  rwa [(List.mem_replicate.mp hs).2]

theorem readLines?_append {l : List Char} (h : '\n' ∉ l) (rest : List Char) :
    readLines? (l ++ '\n' :: rest) = (readLines? rest).map (l :: ·) := by
  induction l with
  | nil => simp [readLines?]
  | cons c l ih =>
    rw [List.mem_cons, not_or] at h
    have hc : c ≠ '\n' := fun he => h.1 he.symm
    rw [List.cons_append, readLines?, if_neg hc, ih h.2]
    cases readLines? rest <;> rfl

theorem readLines?_flatMap {lines : List (List Char)} (h : ∀ l ∈ lines, '\n' ∉ l) :
    readLines? (lines.flatMap (· ++ ['\n'])) = some lines := by
  induction lines with
  | nil => rfl
  | cons l ls ih =>
    rw [List.forall_mem_cons] at h
    rw [List.flatMap_cons, List.append_assoc, List.singleton_append, readLines?_append h.1, ih h.2]
    rfl

theorem readLines?_render (i : Indent) {rows : List (Nat × String)} (h : ∀ row ∈ rows, '\n' ∉ row.2.toList) :
    readLines? (render i (rows.map fun row => line row.1 row.2)).toList =
      some (rows.map fun row => indented i row.1 row.2) := by
  have htext : (render i (rows.map fun row => line row.1 row.2)).toList =
      (rows.map fun row => indented i row.1 row.2).flatMap (· ++ ['\n']) := by
    simp [render, indented, line, Piece.render, Indent.levels, String.toList_join, List.flatMap_map]
  rw [htext]
  apply readLines?_flatMap
  intro l hl
  obtain ⟨row, hrow, rfl⟩ := List.mem_map.mp hl
  exact newline_notMem_indented i row.1 (h row hrow)

end Layout

namespace Angular

open Layout Naming TypeScript

def readPath? (l : List Char) : Option String :=
  (expect? "path: " l).bind fun cs =>
    (readText? cs).bind fun path => if path.2 = [','] then some path.1 else none

def readComponent? (l : List Char) : Option String :=
  (expect? "component: " l).bind fun cs =>
    (readName? cs).bind fun name => if name.2 = [] then some name.1 else none

def readRoute? (i : Indent) (level : Nat) (first path component last : List Char) : Option Route :=
  if unindented? i level first = some "\x7b".toList ∧ unindented? i level last = some "\x7d,".toList then
    ((unindented? i (level + 1) path).bind readPath?).bind fun path =>
      ((unindented? i (level + 1) component).bind readComponent?).map (⟨path, ·⟩)
  else none

def readRoutes? (i : Indent) (level : Nat) : List (List Char) → Option (List Route)
  -- four lines for each route, up to the line that ends the table
  | [l] => if unindented? i level l = some "];".toList then some [] else none
  | first :: path :: component :: last :: rest =>
    (readRoute? i (level + 1) first path component last).bind fun r => (readRoutes? i level rest).map (r :: ·)
  | _ => none

def readTable? (i : Indent) (level : Nat) : List (List Char) → Option (List Route)
  | [] => none
  | l :: rest =>
    if unindented? i level l = some "export const routes: Routes = [".toList then readRoutes? i level rest else none

def routeRows (level : Nat) (r : Route) : List (Nat × String) :=
  [(level, "\x7b"), (level + 1, "path: " ++ quote r.path ++ ","), (level + 1, "component: " ++ r.component),
    (level, "\x7d,")]

def tableRows (level : Nat) (routes : List Route) : List (Nat × String) :=
  (level, "export const routes: Routes = [") :: (routes.flatMap (routeRows (level + 1)) ++ [(level, "];")])

theorem routeTable_eq (level : Nat) (routes : List Route) :
    routeTable level routes = (tableRows level routes).map fun row => line row.1 row.2 := by
  rw [routeTable, tableRows, List.map_cons, List.map_append, List.map_flatMap]
  rfl

theorem newline_notMem_tableRows {routes : List Route} (h : ∀ r ∈ routes, nameFault? r.component = none)
    (level : Nat) : ∀ row ∈ tableRows level routes, '\n' ∉ row.2.toList := by
  intro row hrow
  rcases List.mem_cons.mp hrow with rfl | hrow
  · simp
  rcases List.mem_append.mp hrow with hrow | hrow
  · obtain ⟨r, hr, hrow⟩ := List.mem_flatMap.mp hrow
    have hpath := (oneLine_quote r.path).1
    have hcomponent := (Import.oneLine_of_nameFault? (h r hr)).1
    simp only [routeRows, List.mem_cons, List.not_mem_nil, or_false] at hrow
    rcases hrow with rfl | rfl | rfl | rfl
    · simp
    · simp [hpath]
    · simp [hcomponent]
    · simp
  · rw [List.mem_singleton] at hrow
    subst hrow
    simp

variable {i : Indent} {level : Nat}

theorem readPath?_line (path : String) : readPath? ("path: " ++ quote path ++ ",").toList = some path := by
  have hline : ("path: " ++ quote path ++ ",").toList = "path: ".toList ++ ((quote path).toList ++ [',']) := by
    simp
  rw [hline, readPath?, expect?_append, Option.bind_some, readText?_quote, Option.bind_some, if_pos rfl]

theorem readComponent?_line {name : String} (h : nameFault? name = none) :
    readComponent? ("component: " ++ name).toList = some name := by
  have hline : ("component: " ++ name).toList = "component: ".toList ++ (name.toList ++ []) := by
    simp
  have hname : readName? (name.toList ++ []) = some (name, []) :=
    readName?_eq_some.mpr ⟨h, rfl, fun c hc => nomatch hc⟩
  rw [hline, readComponent?, expect?_append, Option.bind_some, hname, Option.bind_some, if_pos rfl]

theorem readRoute?_rows {r : Route} (h : nameFault? r.component = none) :
    readRoute? i level (indented i level "\x7b") (indented i (level + 1) ("path: " ++ quote r.path ++ ","))
      (indented i (level + 1) ("component: " ++ r.component)) (indented i level "\x7d,") = some r := by
  rw [readRoute?, unindented?_indented, unindented?_indented, unindented?_indented, unindented?_indented,
    if_pos ⟨rfl, rfl⟩, Option.bind_some, Option.bind_some, readPath?_line, readComponent?_line h]
  rfl

theorem readRoutes?_rows {routes : List Route} (h : ∀ r ∈ routes, nameFault? r.component = none) :
    readRoutes? i level ((routes.flatMap (routeRows (level + 1)) ++ [(level, "];")]).map
      fun row => indented i row.1 row.2) = some routes := by
  induction routes with
  | nil => simp [readRoutes?, unindented?_indented]
  | cons r rest ih =>
    rw [List.forall_mem_cons] at h
    rw [List.flatMap_cons, List.append_assoc, List.map_append, routeRows]
    simp only [List.map_cons, List.map_nil, List.cons_append, List.nil_append, readRoutes?]
    rw [readRoute?_rows h.1, Option.bind_some, ih h.2]
    rfl

theorem readTable?_rows {routes : List Route} (h : ∀ r ∈ routes, nameFault? r.component = none) :
    readTable? i level ((tableRows level routes).map fun row => indented i row.1 row.2) = some routes := by
  rw [tableRows, List.map_cons, readTable?, unindented?_indented, if_pos rfl]
  exact readRoutes?_rows h

namespace Step

def ofRoute (r : Route) : List Step :=
  [.line "\x7b", .indent, .line ("path: " ++ quote r.path ++ ","), .line ("component: " ++ r.component), .dedent,
    .line "\x7d,"]

def ofTable (routes : List Route) : List Step :=
  [.line "export const routes: Routes = [", .indent] ++ (routes.flatMap ofRoute ++ [.dedent, .line "];"])

theorem runAll_ofRoute (r : Route) (d : Draft) : runAll (ofRoute r) d = (d.add (routePieces d.level r), none) := by
  have hpieces : (runAll (ofRoute r) d).1.pieces = d.pieces ++ routePieces d.level r := by
    simp [ofRoute, runAll, run, Draft.line, Draft.add, Draft.indent, Draft.dedent, routePieces]
  exact Prod.ext (congrArg (Draft.mk d.level) hpieces) rfl

theorem runAll_ofRoutes (routes : List Route) (d : Draft) :
    runAll (routes.flatMap ofRoute) d = (d.add (routes.flatMap (routePieces d.level)), none) := by
  induction routes generalizing d with
  | nil => simp [runAll, Draft.add]
  | cons r rest ih =>
    rw [List.flatMap_cons, runAll_append (runAll_ofRoute r d), ih, Draft.level_add, List.flatMap_cons]
    simp [Draft.add]

theorem runAll_ofTable (routes : List Route) (d : Draft) : runAll (ofTable routes) d = run (.routes routes) d := by
  have hopen : runAll [.line "export const routes: Routes = [", .indent] d =
      ((d.line "export const routes: Routes = [").indent, none) := rfl
  have hrows := runAll_ofRoutes routes (d.line "export const routes: Routes = [").indent
  rw [ofTable, runAll_append hopen, runAll_append hrows]
  have hpieces : ((((d.line "export const routes: Routes = [").indent.add
      (routes.flatMap (routePieces (d.level + 1)))).dedent).line "];").pieces =
      d.pieces ++ routeTable d.level routes := by
    simp [Draft.line, routeTable]
  exact Prod.ext (congrArg (Draft.mk d.level) hpieces) rfl

end Step

/-- Writing routes, line by line or as a whole, adds four lines for each of them and two more, which read back as
the routes, and leaves the level as it was. -/
theorem routes_read_back {routes : List Route} (h : ∀ r ∈ routes, nameFault? r.component = none) (i : Indent)
    (d : Draft) : ∃ text, Step.Appends i d [.routes routes] text ∧ Step.Appends i d (Step.ofTable routes) text ∧
      ∃ lines, readLines? text.toList = some lines ∧ lines.length = 4 * routes.length + 2 ∧
        readTable? i d.level lines = some routes := by
  have hwhole : Step.Appends i d [.routes routes] (render i (routeTable d.level routes)) :=
    Step.appends_of_run rfl
  have hsteps : Step.Appends i d (Step.ofTable routes) (render i (routeTable d.level routes)) := by
    obtain ⟨d', hrun, hadded⟩ := hwhole
    rw [Step.runAll_singleton] at hrun
    exact ⟨d', (Step.runAll_ofTable routes d).trans hrun, hadded⟩
  refine ⟨_, hwhole, hsteps, (tableRows d.level routes).map fun row => indented i row.1 row.2, ?_, ?_, ?_⟩
  · rw [routeTable_eq]
    exact readLines?_render i (newline_notMem_tableRows h d.level)
  · have hlength := length_routeTable d.level routes
    rw [routeTable_eq, List.length_map] at hlength
    rw [List.length_map, hlength]
  · exact readTable?_rows h

def lobby : List Route :=
  [⟨"'\n  \x7d,\n];\n", "Lobby"⟩, ⟨"\\", "Home"⟩]

def lobbyTable : String :=
  "\texport const routes: Routes = [\n" ++
    "\t\t\x7b\n\t\t\tpath: '\\'\\n  \x7d,\\n];\\n',\n\t\t\tcomponent: Lobby\n\t\t\x7d,\n" ++
    "\t\t\x7b\n\t\t\tpath: '\\\\',\n\t\t\tcomponent: Home\n\t\t\x7d,\n" ++
    "\t];\n"

theorem lobby_read_back : (∀ r ∈ lobby, nameFault? r.component = none) ∧
    Step.Appends .tab ⟨1, [raw "'"]⟩ [.routes lobby] lobbyTable ∧
      ∃ lines, readLines? lobbyTable.toList = some lines ∧ lines.length = 10 ∧ readTable? .tab 1 lines = some lobby := by
  have hnames : ∀ r ∈ lobby, nameFault? r.component = none := by decide +kernel
  have htable : Step.Appends .tab ⟨1, [raw "'"]⟩ [.routes lobby] lobbyTable := by decide +kernel
  obtain ⟨text, happends, -, lines, hlines, hlength, hread⟩ := routes_read_back hnames .tab ⟨1, [raw "'"]⟩
  obtain rfl : text = lobbyTable := happends.unique htable
  exact ⟨hnames, htable, lines, hlines, hlength, hread⟩

end Angular

end AngularScaffold
