import AngularScaffold.Document.Node
import AngularScaffold.Proofs.Text.ByteSplits

namespace AngularScaffold

namespace Text

theorem bytes_append (s t : String) : bytes (s ++ t) = bytes s ++ bytes t := by
  rw [bytes, String.toByteArray_append, ByteArray.data_append, Array.toList_append]
  rfl

theorem length_bytes (s : String) : (bytes s).length = byteLength s.toList := by
  obtain ⟨cs, rfl⟩ : ∃ cs, s = String.ofList cs := ⟨s.toList, String.ofList_toList.symm⟩
  rw [bytes, String.toByteArray_ofList, String.toList_ofList]
  induction cs with
  | nil => rfl
  | cons c cs ih =>
    rw [List.utf8Encode_cons, ByteArray.data_append, Array.toList_append, List.length_append, ih,
      List.utf8Encode_singleton, byteLength_cons]
    simp

theorem length_bytes_eq_size (s : String) : (bytes s).length = s.toByteArray.size :=
  Array.length_toList

theorem getElem?_bytes (s : String) {i : Nat} (h : i < s.toByteArray.size) : (bytes s)[i]? = some s.toByteArray[i] := by
  rw [bytes, Array.getElem?_toList, ByteArray.getElem_eq_getElem_data]
  exact Array.getElem?_eq_getElem h

theorem isValid_of_bytes {s : String} {front back : List UInt8} {b : UInt8} (h : bytes s = front ++ b :: back)
    (hb : b.IsUTF8FirstByte) : String.Pos.Raw.IsValid s ⟨front.length⟩ := by
  have hlength := congrArg List.length h
  rw [length_bytes_eq_size, List.length_append, List.length_cons] at hlength
  have hlt : front.length < s.toByteArray.size := by omega
  have hget := getElem?_bytes s hlt
  rw [h, List.getElem?_append_right (Nat.le_refl _), Nat.sub_self, List.getElem?_cons_zero, Option.some_inj] at hget
  refine String.Pos.Raw.isValid_iff_isUTF8FirstByte.mpr (.inr ⟨hlt, ?_⟩)
  rwa [String.getUTF8Byte, ← hget]

theorem firstByte_of_bytes {s : String} {b : UInt8} {bs : List UInt8} (h : bytes s = b :: bs) : b.IsUTF8FirstByte := by
  have hpos : 0 < s.toByteArray.size := by
    rw [← length_bytes_eq_size, h]
    exact Nat.succ_pos _
  have hget := getElem?_bytes s hpos
  rw [h, List.getElem?_cons_zero, Option.some_inj] at hget
  rw [hget]
  exact s.isValidUTF8.isUTF8FirstByte_getElem_zero hpos

theorem toList_prefix_of_bytes {s t : String} {rest : List UInt8} (h : bytes s = bytes t ++ rest) :
    t.toList <+: s.toList := by
  apply List.isPrefix_of_utf8Encode_append_eq_utf8Encode rest.toByteArray
  rw [String.utf8Encode_toList, String.utf8Encode_toList]
  apply ByteArray.ext
  apply Array.toList_inj.mp
  rw [ByteArray.data_append, Array.toList_append, List.toList_data_toByteArray]
  exact h.symm

theorem exists_append_of_bytes {s t : String} {front back : List UInt8} (hne : t ≠ "")
    (h : bytes s = front ++ (bytes t ++ back)) :
    ∃ a b, s.toList = a ++ (t.toList ++ b) ∧ byteLength a = front.length := by
  obtain ⟨c, cs, hcs⟩ : ∃ c cs, bytes t = c :: cs := by
    refine List.exists_cons_of_ne_nil fun hnil => hne (bytes_injective ?_)
    rw [hnil]
    rfl
  have hvalid : String.Pos.Raw.IsValid s ⟨front.length⟩ := by
    rw [hcs, List.cons_append] at h
    exact isValid_of_bytes h (firstByte_of_bytes hcs)
  obtain ⟨u, v, rfl, hu⟩ := String.Pos.Raw.isValid_iff_exists_append.mp hvalid
  have hlength : (bytes u).length = front.length := (congrArg String.Pos.Raw.byteIdx hu).symm
  rw [bytes_append] at h
  obtain ⟨rest, hrest⟩ := toList_prefix_of_bytes (List.append_inj h hlength).2
  exact ⟨u.toList, rest, by rw [String.toList_append, hrest], by rw [← length_bytes, hlength]⟩

end Text

namespace Document

open Text

/-- The span lies in the source, and its bytes are those of the text. -/
structure Span.Covers (span : Span) (source text : String) : Prop where
  ordered : span.start ≤ span.stop
  within : span.stop ≤ (bytes source).length
  bytes_eq : ((bytes source).drop span.start).take (span.stop - span.start) = bytes text

variable {span : Span} {source text : String}

theorem covers_of_append {a b : List Char} (h : source.toList = a ++ (text.toList ++ b)) :
    (⟨byteLength a, byteLength a + byteLength text.toList⟩ : Span).Covers source text := by
  have hsource : bytes source = bytes (String.ofList a) ++ (bytes text ++ bytes (String.ofList b)) := by
    rw [← bytes_append, ← bytes_append]
    congr 1
    apply String.toList_inj.mp
    rw [h, String.toList_append, String.toList_append, String.toList_ofList, String.toList_ofList]
  have ha : byteLength a = (bytes (String.ofList a)).length := by rw [length_bytes, String.toList_ofList]
  refine ⟨Nat.le_add_right _ _, ?_, ?_⟩
  · change byteLength a + byteLength text.toList ≤ _
    rw [hsource, ha, ← length_bytes, List.length_append, List.length_append]
    omega
  · rw [hsource, ha, List.drop_left, Nat.add_sub_cancel_left, ← length_bytes, List.take_left]

theorem Span.Covers.exists_append (h : span.Covers source text) (hne : text ≠ "") :
    ∃ a b, source.toList = a ++ (text.toList ++ b) ∧ span = ⟨byteLength a, byteLength a + byteLength text.toList⟩ := by
  have hsplit : bytes source = (bytes source).take span.start ++
      (bytes text ++ ((bytes source).drop span.start).drop (span.stop - span.start)) := by
    rw [← h.bytes_eq, List.take_append_drop, List.take_append_drop]
  obtain ⟨a, b, hsource, ha⟩ := exists_append_of_bytes hne hsplit
  have hstop := congrArg List.length h.bytes_eq
  have hordered := h.ordered
  have hwithin := h.within
  rw [List.length_take, List.length_drop, length_bytes text] at hstop
  rw [List.length_take] at ha
  refine ⟨a, b, hsource, ?_⟩
  obtain ⟨start, stop⟩ := span
  simp only [Span.mk.injEq] at *
  omega

end Document

end AngularScaffold
