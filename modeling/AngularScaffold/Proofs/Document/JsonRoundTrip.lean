import AngularScaffold.Manifest.Schema
import AngularScaffold.Proofs.Document.DecodedValue
import AngularScaffold.Proofs.Document.JsonReader

/-!
Configurations and routes written as JSON and read back. Main statement: a configuration without doubles comes back
exactly if none of its maps begins with the key for dates, and a route always comes back.
-/

namespace AngularScaffold.Document

open Json (Takes Begins ItemsOf EntriesOf member)
open Value (Throughout IsFloat Keyed throughout_list throughout_map throughout_flat)

theorem toList_listToJson (items : List Value) : (Value.list items).toJson.toList =
    '[' :: ([','].intercalate (items.map (·.toJson.toList)) ++ [']']) := by
  have htexts : Value.itemsToJson items = items.map Value.toJson := by
    induction items with
    | nil => rfl
    | cons v vs ih => rw [Value.itemsToJson, ih, List.map_cons]
  rw [Value.toJson, htexts, String.toList_append, String.toList_append, String.toList_intercalate, List.map_map]
  rfl

theorem toList_mapToJson (entries : List (String × Value)) : (Value.map entries).toJson.toList =
    '{' :: ([','].intercalate (entries.map (member (·.toJson.toList))) ++ ['}']) := by
  have htexts : Value.entriesToJson entries = entries.map fun e => Value.quoteJson e.1 ++ ":" ++ e.2.toJson := by
    induction entries with
    | nil => rfl
    | cons e es ih => rw [Value.entriesToJson, ih, List.map_cons]
  have hmember : String.toList ∘ (fun e : String × Value => Value.quoteJson e.1 ++ ":" ++ e.2.toJson) =
      member (·.toJson.toList) := by
    funext e
    simp [member]
  rw [Value.toJson, htexts, String.toList_append, String.toList_append, String.toList_intercalate, List.map_map,
    hmember]
  rfl

theorem begins_toJson {v : Value} (hv : ¬IsFloat v) : Begins v.toJson.toList := by
  cases v with
  | bool b => cases b <;> exact ⟨_, _, rfl, by decide, by decide⟩
  | int i =>
    obtain ⟨c, cs, hcs, hc⟩ := Json.toString_starts i.toInt
    exact ⟨c, cs, hcs, Json.not_isBlank_of_number hc, Json.ne_of_number hc (by decide)⟩
  | float x => exact absurd trivial hv
  | text s =>
    obtain ⟨inner, hinner, -⟩ := Json.toList_quoteJson s
    exact ⟨'"', inner, hinner, by decide, by decide⟩
  | list items => exact ⟨'[', _, toList_listToJson items, by decide, by decide⟩
  | map entries => exact ⟨'{', _, toList_mapToJson entries, by decide, by decide⟩

theorem wholeNumber?_toInt (i : Int64) : wholeNumber? i.toInt = some (.int i) := by
  have hlt := i.toInt_lt
  have hle := i.le_toInt
  have hpow : Int.pow 2 63 = 2 ^ 63 := rfl
  rw [wholeNumber?, hpow, if_pos, Int64.ofInt_toInt]
  simpa using ⟨hle, hlt⟩

theorem itemValues_of {f : Format} {items : Items} {vs : List Value}
    (h : ItemsOf (fun n v => value f n = .ok v) items vs) : itemValues f items = .ok vs := by
  induction h with
  | nil => rfl
  | cons hn _ ih =>
    rw [itemValues, hn, ih]
    rfl

theorem entryValues_of {f : Format} {entries : Entries} {es : List (String × Value)}
    (h : EntriesOf (fun n v => value f n = .ok v) entries es) : entryValues f entries = .ok es := by
  induction h with
  | nil => rfl
  | cons hn _ ih =>
    rw [entryValues, hn, ih]
    rfl

theorem value_table_of {f : Format} {entries : Entries} {es : List (String × Value)} (span : Span)
    (h : EntriesOf (fun n v => value f n = .ok v) entries es) (hkeys : Keyed (.map es)) (hdated : ¬Dated (.map es)) :
    value f (.table entries span) = .ok (.map es) := by
  cases h with
  | nil => rfl
  | @cons k _ n v rest others hn hrest =>
    have hk : k ≠ dateKey := hdated
    rw [value, if_neg hk, hn, entryValues_of hrest]
    have hput : Pairs.putAll ((k, v) :: others) [] = (k, v) :: others := Pairs.putAll_of_nodup hkeys
    show Except.ok _ = _
    rw [hput]

structure Kept (v : Value) : Prop where
  exact : ¬IsFloat v
  keyed : Keyed v
  undated : ¬Dated v

theorem exists_part (depth : Nat) : ∃ part, Json.readValue depth = Json.readValueWith part := by
  cases depth with
  | zero => exact ⟨none, rfl⟩
  | succ depth => exact ⟨some (Json.readValue depth), rfl⟩

theorem takes_map {P : Node → Value → Prop} {entries : List (String × Value)} {depth : Nat}
    (hdepth : (Value.map entries).nesting ≤ depth)
    (h : ∀ e ∈ entries, ∀ d, e.2.nesting ≤ d → Takes (Json.readValue d) e.2.toJson.toList (P · e.2)) :
    Takes (Json.readValue depth) (Value.map entries).toJson.toList fun n => ∃ nodes span, n = .table nodes span ∧
      EntriesOf P nodes entries := by
  rw [Value.nesting] at hdepth
  obtain ⟨depth, rfl⟩ := Nat.exists_eq_add_of_lt hdepth
  rw [toList_mapToJson]
  apply Json.takes_table
  intro e he
  have := Value.nesting_le_of_mem_entries he
  exact h e he _ (by omega)

theorem takes_text (s : String) (depth : Nat) :
    Takes (Json.readValue depth) (Value.text s).toJson.toList fun n => ∃ span, n = .scalar (.text s) span := by
  obtain ⟨part, hpart⟩ := exists_part depth
  rw [hpart, Value.toJson]
  exact Json.takes_text s

theorem takes_toJson {v : Value} (hv : v.Throughout Kept) {depth : Nat} (hdepth : v.nesting ≤ depth) :
    Takes (Json.readValue depth) v.toJson.toList fun n => value .json n = .ok v := by
  induction v generalizing depth with
  | bool b =>
    obtain ⟨part, hpart⟩ := exists_part depth
    rw [hpart, Value.toJson]
    apply (Json.takes_bool b).imp
    rintro _ ⟨span, rfl⟩
    rfl
  | int i =>
    obtain ⟨part, hpart⟩ := exists_part depth
    rw [hpart, Value.toJson]
    apply (Json.takes_int i).imp
    rintro _ ⟨span, rfl⟩
    rw [value, wholeNumber?_toInt]
  | float x => exact absurd trivial hv.self.exact
  | text s =>
    apply (takes_text s depth).imp
    rintro _ ⟨span, rfl⟩
    rfl
  | list items ih =>
    rw [Value.nesting] at hdepth
    obtain ⟨depth, rfl⟩ := Nat.exists_eq_add_of_lt hdepth
    have hitems := (throughout_list.mp hv).2
    -- the brackets take up one level, the items have all others
    have htakes : ∀ v ∈ items, Takes (Json.readValue (Value.itemsNesting items + depth)) v.toJson.toList
        fun n => value .json n = .ok v := by
      intro v hmem
      have := Value.nesting_le_of_mem_items hmem
      exact ih v hmem (hitems v hmem) (by omega)
    rw [toList_listToJson]
    apply (Json.takes_list (fun v hmem => begins_toJson (hitems v hmem).self.exact) htakes).imp
    rintro _ ⟨nodes, span, rfl, hnodes⟩
    rw [value, itemValues_of hnodes]
    rfl
  | map entries ih =>
    have hentries := (throughout_map.mp hv).2
    apply (takes_map (P := fun n v => value .json n = .ok v) hdepth fun e he _ hd => ih e he (hentries e he) hd).imp
    rintro _ ⟨nodes, span, rfl, hnodes⟩
    exact value_table_of span hnodes hv.self.keyed hv.self.undated

theorem takes_config {c : Config} (hc : c.Throughout Kept) {depth : Nat}
    (hdepth : (Value.map c.entries).nesting ≤ depth) :
    Takes (Json.readValue depth) c.toJson.toList fun n => config .json n = .ok c := by
  -- the configuration itself is no value, so its own first key may be any
  apply (takes_map (P := fun n v => value .json n = .ok v) hdepth fun e he _ hd => takes_toJson (hc e he) hd).imp
  rintro _ ⟨nodes, span, rfl, hnodes⟩
  rw [config, mapOf, eachEntry_value, entryValues_of hnodes, Except.map, OrderedMap.ofList_entries]

theorem takes_route (r : Route) {depth : Nat} (hdepth : 1 ≤ depth) :
    Takes (Json.readValue depth) r.toJson.toList fun n => Route.schema.decode .json n = .ok r := by
  have htexts : ∀ e ∈ [("path", Value.text r.path), ("component", Value.text r.component)], ∀ d, e.2.nesting ≤ d →
      Takes (Json.readValue d) e.2.toJson.toList fun n => ∃ s span, e.2 = .text s ∧ n = .scalar (.text s) span := by
    intro e he d _
    obtain ⟨s, hs⟩ : ∃ s, e.2 = .text s := by
      rw [List.mem_cons, List.mem_singleton] at he
      rcases he with rfl | rfl
      · exact ⟨r.path, rfl⟩
      · exact ⟨r.component, rfl⟩
    rw [hs]
    apply (takes_text s d).imp
    rintro _ ⟨span, rfl⟩
    exact ⟨s, span, rfl, rfl⟩
  apply (takes_map (P := fun n v => ∃ s span, v = .text s ∧ n = .scalar (.text s) span) hdepth htexts).imp
  rintro _ ⟨nodes, span, rfl, hnodes⟩
  obtain _ | ⟨⟨path, _, hpath, rfl⟩, hrest⟩ := hnodes
  obtain _ | ⟨⟨component, _, hcomponent, rfl⟩, hend⟩ := hrest
  cases hend
  obtain rfl : r.path = path := Value.text.inj hpath
  obtain rfl : r.component = component := Value.text.inj hcomponent
  rfl

theorem decodeText_of_takes {α : Type} {item : Decoder α} {source : String} {x : α}
    (h : Takes (Json.readValue Json.maxDepth) source.toList fun n => item n = .ok x) :
    decodeText .json item source = .ok x := by
  obtain ⟨n, ⟨offset, rest⟩, hread, rfl, hn⟩ := h 0 [] Json.ends_nil
  rw [List.append_nil] at hread
  have hsource : Json.read source = ⟨.json, n, none⟩ := by
    rw [Json.read, Cursor.start, hread]
    rfl
  rw [decodeText, hsource, mapError_eq_ok, Source.decode, hn]
  rfl

theorem decode_root {α : Type} {item : Decoder α} {source : String} {x : α}
    (h : decodeText .json item source = .ok x) : item (Json.read source).root = .ok x := by
  rw [decodeText, mapError_eq_ok, Source.decode] at h
  obtain ⟨y, hy, h⟩ := bind_eq_ok.mp h
  split at h
  · cases h
    exact hy
  · cases h

/-- A configuration without doubles, nested as deep as JSON may be, is read back from its text exactly if no map in it
begins with the key for dates. Every route is read back from its text. -/
theorem json_read_back :
    (∀ c : Config, c.Throughout Keyed → c.Throughout (¬IsFloat ·) → (Value.map c.entries).nesting ≤ 127 →
      (decodeText .json (config .json) c.toJson = .ok c ↔ c.Throughout (¬Dated ·))) ∧
    ∀ r : Route, decodeText .json (Route.schema.decode .json) r.toJson = .ok r := by
  refine ⟨fun c hkeyed hexact hdepth => ⟨fun h => config_undated (decode_root h), fun hundated => ?_⟩,
    fun r => decodeText_of_takes (takes_route r (by decide))⟩
  have hkept : c.Throughout Kept := fun e he w hw => ⟨hexact e he w hw, hkeyed e he w hw, hundated e he w hw⟩
  exact decodeText_of_takes (takes_config hkept hdepth)

def parcel (stamp : String) : Config :=
  ⟨[("note", .text "a \"b\"\n\\ \x01é"),
    ("weights", .list [.int (-9223372036854775808), .int 9223372036854775807, .list [], .bool true]),
    ("sent", .map [(stamp, .text "1979-05-27"), ("by", .map [])])], by simp [Pairs.keys]⟩

theorem parcel_keyed {stamp : String} (h : stamp ≠ "by") : (parcel stamp).Throughout Keyed := by
  simp [Config.Throughout, parcel, Keyed, h]

theorem parcel_exact (stamp : String) : (parcel stamp).Throughout (¬IsFloat ·) := by
  simp [Config.Throughout, parcel, IsFloat]

theorem parcel_undated (stamp : String) : (parcel stamp).Throughout (¬Dated ·) ↔ stamp ≠ dateKey := by
  simp [Config.Throughout, parcel, Dated]

theorem parcel_read_back : decodeText .json (config .json) (parcel "on").toJson = .ok (parcel "on") ∧
    decodeText .json (config .json) (parcel dateKey).toJson ≠ .ok (parcel dateKey) := by
  have hdepth : ∀ stamp, (Value.map (parcel stamp).entries).nesting ≤ 127 := fun _ => by
    simp [parcel, Value.nesting, Value.entriesNesting, Value.itemsNesting]
  have hon := json_read_back.1 (parcel "on") (parcel_keyed (by decide)) (parcel_exact _) (hdepth _)
  have hdate := json_read_back.1 (parcel dateKey) (parcel_keyed (by decide)) (parcel_exact _) (hdepth _)
  refine ⟨hon.mpr ((parcel_undated _).mpr (by decide)), fun h => ?_⟩
  exact (parcel_undated dateKey).mp (hdate.mp h) rfl

end AngularScaffold.Document
