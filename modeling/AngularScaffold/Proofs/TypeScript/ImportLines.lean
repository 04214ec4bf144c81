import AngularScaffold.Proofs.TypeScript.ImportTable
import AngularScaffold.Proofs.TypeScript.PlainText

namespace AngularScaffold.TypeScript

open Naming

def readImport? (cs : List Char) : Option (Import × List Char) :=
  (expect? "import \x7b " cs).bind fun cs =>
    (readItems? readName? " \x7d from " cs).bind fun names =>
      (readText? names.2).bind fun module =>
        (expect? ";" module.2).map fun rest => (⟨module.1, names.1⟩, rest)

namespace Import

structure Faithful (i : Import) : Prop where
  reads : readImport? i.line.toList = some (i, [])
  oneLine : OneLine i.line

variable {i : Import}

theorem toList_line (h : i.symbols ≠ []) : i.line.toList = "import \x7b ".toList ++
    ((", ".intercalate i.symbols).toList ++ (" \x7d from ".toList ++
      ('\'' :: (i.module.toList ++ '\'' :: ";".toList)))) := by
  have hempty : i.symbols.isEmpty = false := by simpa using h
  simp [line, hempty]

theorem readImport?_line (hne : i.symbols ≠ []) (h : ∀ s ∈ i.symbols, nameFault? s = none) :
    readImport? i.line.toList = (readText? ('\'' :: (i.module.toList ++ '\'' :: ";".toList))).bind fun module =>
      (expect? ";" module.2).map fun rest => (⟨module.1, i.symbols⟩, rest) := by
  -- the names do not need the module: each ends at a comma or at the space before the brace
  obtain ⟨s, ss, hs⟩ := List.exists_cons_of_ne_nil hne
  have hitem : ∀ b ∈ s :: ss, ∀ rest, EndsName rest → readName? ((id b).toList ++ rest) = some (b, rest) :=
    fun b hb rest hrest => readName?_eq_some.mpr ⟨h b (hs ▸ hb), rfl, hrest⟩
  have hcomma : ∀ rest, EndsName (", ".toList ++ rest) := fun rest => endsName_cons (' ' :: rest) (by decide)
  have hend : ∀ rest, EndsName (" \x7d from ".toList ++ rest) :=
    fun rest => endsName_cons ("\x7d from ".toList ++ rest) (by decide)
  have hitems : ∀ rest, readItems? readName? " \x7d from "
      ((", ".intercalate ((s :: ss).map id)).toList ++ (" \x7d from ".toList ++ rest)) = some (s :: ss, rest) :=
    readItems?_intercalate_of EndsName hcomma hend (fun _ => rfl) s ss hitem
  rw [List.map_id, ← hs] at hitems
  rw [toList_line hne, readImport?, expect?_append, Option.bind_some, hitems, Option.bind_some]

theorem oneLine_of_nameFault? {name : String} (h : nameFault? name = none) : OneLine name := by
  obtain ⟨c, cs, hname, hc, hcs⟩ := nameFault?_eq_none.mp h
  have hall : ∀ x ∈ name.toList, inIdentifier x = true := by
    rw [hname]
    exact List.forall_mem_cons.mpr ⟨inIdentifier_of_starts hc, hcs⟩
  exact ⟨fun hn => absurd (hall _ hn) (by decide), fun hr => absurd (hall _ hr) (by decide)⟩

theorem oneLine_line (hne : i.symbols ≠ []) (h : ∀ s ∈ i.symbols, nameFault? s = none) (hm : OneLine i.module) :
    OneLine i.line := by
  have hempty : i.symbols.isEmpty = false := by simpa using hne
  have hopen : OneLine "import \x7b " := by simp [OneLine]
  have hmid : OneLine " \x7d from '" := by simp [OneLine]
  have hclose : OneLine "';" := by simp [OneLine]
  have hcomma : OneLine ", " := by simp [OneLine]
  have hnames := hcomma.intercalate fun s hs => oneLine_of_nameFault? (h s hs)
  rw [line, hempty, if_neg Bool.false_ne_true]
  exact (((hopen.append hnames).append hmid).append hm).append hclose

theorem faithful_iff (hne : i.symbols ≠ []) (h : ∀ s ∈ i.symbols, nameFault? s = none) :
    i.Faithful ↔ Plain i.module := by
  constructor
  · intro hf
    have hreads := hf.reads
    rw [readImport?_line hne h] at hreads
    obtain ⟨module, hmodule, hrest⟩ := Option.bind_eq_some_iff.mp hreads
    obtain ⟨rest, hrest, he⟩ := Option.map_eq_some_iff.mp hrest
    obtain ⟨hi, rfl⟩ := Prod.mk.inj he
    have hname : module.1 = i.module := congrArg Import.module hi
    have hafter : module.2 = ";".toList := (eq_of_expect? hrest).symm.trans (List.append_nil _)
    apply readText?_between_quotes.mp
    rw [hmodule, ← hname, ← hafter]
  · intro hp
    refine ⟨?_, ?_⟩
    · rw [readImport?_line hne h, readText?_between_quotes.mpr hp]
      rfl
    · exact oneLine_line hne h (oneLine_of_plain hp)

end Import

theorem mem_symbols_iff {uses : List (String × String)} {i : Import} (hi : i ∈ importsOf uses) {symbol : String} :
    symbol ∈ i.symbols ↔ (i.module, symbol) ∈ uses := by
  rw [← mem_importsOf]
  constructor
  · exact fun hs => ⟨i, hi, rfl, hs⟩
  · rintro ⟨j, hj, hmodule, hs⟩
    rwa [List.inj_on_of_nodup_map (nodup_modules_importsOf uses) hj hi hmodule] at hs

theorem mem_lines_iff {uses : List (String × String)} (h : ∀ i ∈ importsOf uses, i.Faithful)
    {module symbol : String} : (module, symbol) ∈ uses ↔ ∃ line ∈ (importsOf uses).map Import.line,
      ∃ i, readImport? line.toList = some (i, []) ∧ i.module = module ∧ symbol ∈ i.symbols := by
  rw [← mem_importsOf]
  constructor
  · rintro ⟨i, hi, hused⟩
    exact ⟨i.line, List.mem_map_of_mem hi, i, (h i hi).reads, hused⟩
  · rintro ⟨line, hline, i, hreads, hused⟩
    obtain ⟨j, hj, rfl⟩ := List.mem_map.mp hline
    rw [(h j hj).reads] at hreads
    obtain ⟨rfl, -⟩ := Prod.mk.inj (Option.some.inj hreads)
    exact ⟨j, hj, hused⟩

/-- The line of an import names the symbols that were collected for its module, and it reads back exactly if the
module needs no escape. The lines of plain modules tell all pairs that were collected. -/
theorem importLines_read {uses : List (String × String)} (h : ∀ u ∈ uses, nameFault? u.2 = none) :
    (∀ i ∈ importsOf uses, (i.Faithful ↔ Plain i.module) ∧
      ∀ symbol, symbol ∈ i.symbols ↔ (i.module, symbol) ∈ uses) ∧
    ((∀ u ∈ uses, Plain u.1) → ∀ module symbol, (module, symbol) ∈ uses ↔
      ∃ line ∈ (importsOf uses).map Import.line,
        ∃ i, readImport? line.toList = some (i, []) ∧ i.module = module ∧ symbol ∈ i.symbols) := by
  have hfaithful : ∀ i ∈ importsOf uses, i.Faithful ↔ Plain i.module := by
    intro i hi
    have hnames : ∀ s ∈ i.symbols, nameFault? s = none := fun s hs => h _ ((mem_symbols_iff hi).mp hs)
    exact Import.faithful_iff (symbols_importsOf hi).1 hnames
  refine ⟨fun i hi => ⟨hfaithful i hi, fun symbol => mem_symbols_iff hi⟩, fun hplain module symbol => ?_⟩
  apply mem_lines_iff
  intro i hi
  obtain ⟨s, hs⟩ := List.exists_mem_of_ne_nil _ (symbols_importsOf hi).1
  exact (hfaithful i hi).mpr (hplain _ ((mem_symbols_iff hi).mp hs))

def stageUses : List (String × String) :=
  [("@angular/core", "NgModule"), ("./it's", "Prop$1"), ("@angular/core", "Component")]

theorem stage_lines : (∀ u ∈ stageUses, nameFault? u.2 = none) ∧ importsOf stageUses =
      [⟨"@angular/core", ["Component", "NgModule"]⟩, ⟨"./it's", ["Prop$1"]⟩] ∧
    Import.Faithful ⟨"@angular/core", ["Component", "NgModule"]⟩ ∧ ¬Import.Faithful ⟨"./it's", ["Prop$1"]⟩ := by
  have hnames : ∀ u ∈ stageUses, nameFault? u.2 = none := by decide +kernel
  have himports : importsOf stageUses =
      [⟨"@angular/core", ["Component", "NgModule"]⟩, ⟨"./it's", ["Prop$1"]⟩] := by decide +kernel
  have hread := (importLines_read hnames).1
  rw [himports] at hread
  refine ⟨hnames, himports, ?_, ?_⟩
  · exact (hread _ (.head _)).1.mpr (by decide +kernel)
  · exact fun hf => absurd ((hread _ (.tail _ (.head _))).1.mp hf) (by decide +kernel)

def apostropheUses : List (String × String) :=
  [("it's", "A")]

/-- An apostrophe in a module ends the literal that should hold it. -/
theorem apostrophe_ends_module : (∀ u ∈ apostropheUses, nameFault? u.2 = none) ∧
    ∃ i ∈ importsOf apostropheUses, i = ⟨"it's", ["A"]⟩ ∧ i.line = "import \x7b A \x7d from 'it's';" ∧
      ¬i.Faithful := by
  have hnames : ∀ u ∈ apostropheUses, nameFault? u.2 = none := by decide +kernel
  have himports : importsOf apostropheUses = [⟨"it's", ["A"]⟩] := by decide +kernel
  have hline : Import.line ⟨"it's", ["A"]⟩ = "import \x7b A \x7d from 'it's';" := by decide +kernel
  rw [himports]
  refine ⟨hnames, _, .head _, rfl, hline, fun hf => ?_⟩
  have hplain := (Import.faithful_iff (by decide) (by decide +kernel)).mp hf
  exact absurd hplain (by decide +kernel)

end AngularScaffold.TypeScript
