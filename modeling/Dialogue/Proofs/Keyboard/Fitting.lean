import Dialogue.Keyboard
import Mathlib.Data.List.Forall2

/-! Payloads that fit. A text that is cut between two bytes of a character loses that character and
no other, so the payload of a value holds as much of it as there is room for. -/
namespace Dialogue

namespace Text

/-- `head` is the longest beginning of `cs` that takes at most `room` bytes. -/
structure Longest (room : Nat) (cs head : List Char) : Prop where
  begins : head <+: cs
  fits : byteSize head ≤ room
  longest {other : List Char} : other <+: cs → byteSize other ≤ room → other <+: head

theorem length_bytes (cs : List Char) : (bytes cs).length = byteSize cs := by
  induction cs with
  | nil => rfl
  | cons c cs ih =>
    rw [byteSize_cons, ← ih, bytes, List.flatMap_cons, List.length_append,
      String.length_utf8EncodeChar]
    rfl

theorem byteSize_toList (s : String) : byteSize s.toList = s.utf8ByteSize := by
  rw [← length_bytes, ← String.size_toByteArray, ← String.utf8Encode_toList, List.utf8Encode,
    List.size_toByteArray]
  rfl

private theorem characters_encode (c : Char) (bs : List UInt8) :
    characters (String.utf8EncodeChar c ++ bs) = c :: characters bs := by
  have hlength := String.length_utf8EncodeChar c
  have hdecode : (String.utf8EncodeChar c ++ bs).toByteArray.utf8DecodeChar? 0 = some c := by
    rw [List.toByteArray_append, ByteArray.utf8DecodeChar?_utf8EncodeChar_append]
  cases hcode : String.utf8EncodeChar c with
  | nil =>
    have hpos := c.utf8Size_pos
    rw [hcode, List.length_nil] at hlength
    omega
  | cons b code =>
    rw [hcode, List.cons_append] at hdecode
    rw [hcode, List.length_cons] at hlength
    rw [List.cons_append, characters, hdecode]
    have hcut : c.utf8Size - 1 = code.length := by omega
    simp only [hcut, List.drop_left]

/-- Bytes with which no character begins are passed over. -/
private theorem characters_of_inner {bs : List UInt8} (h : ∀ b ∈ bs, ¬ b.IsUTF8FirstByte) :
    characters bs = [] := by
  induction bs with
  | nil => rw [characters]
  | cons b bs ih =>
    have hnone : (b :: bs).toByteArray.utf8DecodeChar? 0 = none := by
      rw [← Option.not_isSome_iff_eq_none]
      intro hsome
      have hfirst := ByteArray.isUTF8FirstByte_of_isSome_utf8DecodeChar? hsome
      rw [List.getElem_toByteArray] at hfirst
      exact h b (List.mem_cons_self ..) hfirst
    rw [characters, hnone]
    exact ih fun d hd => h d (List.mem_cons_of_mem _ hd)

/-- The first bytes of a character, short of the last one, hold no character. -/
private theorem characters_of_short {c : Char} {n : Nat} (hn : n < c.utf8Size) :
    characters ((String.utf8EncodeChar c).take n) = [] := by
  have hlength := String.length_utf8EncodeChar c
  cases hcut : (String.utf8EncodeChar c).take n with
  | nil => rw [characters]
  | cons b bs =>
    have hnone : (b :: bs).toByteArray.utf8DecodeChar? 0 = none := by
      rw [Option.eq_none_iff_forall_ne_some]
      intro d hd
      -- What is decoded from the first bytes is decoded from all of them, and is too long.
      have hwhole := ByteArray.utf8DecodeChar?_append_eq_some hd
        ((String.utf8EncodeChar c).drop n).toByteArray
      have hempty : (String.utf8EncodeChar c).toByteArray.utf8DecodeChar? 0 = some c := by
        have h := ByteArray.utf8DecodeChar?_utf8EncodeChar_append (b := ByteArray.empty) (c := c)
        rwa [ByteArray.append_empty] at h
      rw [← hcut, ← List.toByteArray_append, List.take_append_drop, hempty] at hwhole
      have hsize := ByteArray.le_size_of_utf8DecodeChar?_eq_some hd
      rw [← hcut, ← Option.some.inj hwhole, List.size_toByteArray, List.length_take] at hsize
      omega
    rw [characters, hnone]
    refine characters_of_inner fun d hd => ?_
    obtain ⟨i, hi, rfl⟩ := List.getElem_of_mem hd
    have hfound : ((String.utf8EncodeChar c).take n)[i + 1]? = some bs[i] := by
      rw [hcut, List.getElem?_cons_succ, List.getElem?_eq_getElem hi]
    rw [List.getElem?_take] at hfound
    split at hfound
    · obtain ⟨hlt, hget⟩ := List.getElem?_eq_some_iff.mp hfound
      rw [← hget, UInt8.isUTF8FirstByte_getElem_utf8EncodeChar]
      exact Nat.succ_ne_zero i
    · cases hfound

/-- A cut keeps all characters up to the one that has no room. -/
private theorem characters_take (cs : List Char) (room : Nat) :
    ∃ kept rest, cs = kept ++ rest ∧ characters ((bytes cs).take room) = kept ∧
      byteSize kept ≤ room ∧ ∀ c ∈ rest.head?, room < byteSize kept + c.utf8Size := by
  induction cs generalizing room with
  | nil =>
    refine ⟨[], [], rfl, ?_, Nat.zero_le _, nofun⟩
    rw [bytes, List.flatMap_nil, List.take_nil, characters]
  | cons c cs ih =>
    have hlength := String.length_utf8EncodeChar c
    have hbytes : bytes (c :: cs) = String.utf8EncodeChar c ++ bytes cs := List.flatMap_cons
    rw [hbytes]
    by_cases hroom : c.utf8Size ≤ room
    · obtain ⟨kept, rest, hcs, hkept, hfits, hlast⟩ := ih (room - c.utf8Size)
      refine ⟨c :: kept, rest, by rw [hcs, List.cons_append], ?_, ?_, ?_⟩
      · rw [List.take_append, List.take_of_length_le (by omega), hlength, characters_encode, hkept]
      · rw [byteSize_cons]
        omega
      · intro d hd
        have hd := hlast d hd
        rw [byteSize_cons]
        omega
    · refine ⟨[], c :: cs, rfl, ?_, Nat.zero_le _, ?_⟩
      · rw [List.take_append_of_le_length (by omega), characters_of_short (by omega)]
      · intro d hd
        rw [← Option.some.inj hd]
        have hnone : byteSize [] = 0 := rfl
        omega

theorem longest_truncate (s : String) (room : Nat) :
    Longest room s.toList (truncate s room).toList := by
  obtain ⟨kept, rest, hs, hkept, hfits, hlast⟩ := characters_take s.toList room
  rw [truncate, String.toList_ofList, hkept]
  have hbegins : kept <+: s.toList := hs ▸ List.prefix_append kept rest
  refine ⟨hbegins, hfits, ?_⟩
  intro other hother hroom
  rcases List.prefix_or_prefix_of_prefix hother hbegins with h | ⟨more, rfl⟩
  · exact h
  · rw [hs, List.prefix_append_right_inj] at hother
    cases more with
    | nil => exact (List.append_nil kept).symm ▸ List.prefix_refl kept
    | cons c more =>
      obtain ⟨after, rfl⟩ := hother
      have hc := hlast c rfl
      rw [byteSize_append, byteSize_cons] at hroom
      omega

end Text

namespace Keyboard

/-- A payload is the lead, a low line and the longest beginning of the value's text with which all
of it takes at most as many bytes as a channel takes. -/
def Fitted (lead value payload : String) : Prop :=
  ∃ head : String, payload = lead ++ "_" ++ head ∧ head.toList <+: value.toList ∧
    payload.utf8ByteSize ≤ payloadLimit ∧
    ∀ other : String, other.toList <+: value.toList →
      (lead ++ "_" ++ other).utf8ByteSize ≤ payloadLimit → other.toList <+: head.toList

/-- The report that a value was shortened, where its payload does not hold all of it. -/
def shortened? (lead : String) (v : Value) (payload : String) : Option Notice :=
  let whole := lead ++ "_" ++ v.display
  if payload = whole then none else some (.payloadTruncated whole payload)

section
variable {lead : String} (hlead : lead.utf8ByteSize < payloadLimit)

private theorem size_payload (lead head : String) :
    (lead ++ "_" ++ head).utf8ByteSize = lead.utf8ByteSize + 1 + head.utf8ByteSize := by
  rw [String.utf8ByteSize_append, String.utf8ByteSize_append]
  rfl

private theorem menuPayload_of_fits {v : Value}
    (hfits : (lead ++ "_" ++ v.display).utf8ByteSize ≤ payloadLimit) :
    menuPayload lead v = (lead ++ "_" ++ v.display, []) := by
  rw [menuPayload]
  exact if_neg (by rw [Text.byteSize_toList]; omega)

include hlead

theorem fitted_menuPayload (v : Value) : Fitted lead v.display (menuPayload lead v).1 := by
  by_cases hfits : (lead ++ "_" ++ v.display).utf8ByteSize ≤ payloadLimit
  · rw [menuPayload_of_fits hfits]
    exact ⟨v.display, rfl, List.prefix_refl _, hfits, fun _ h _ => h⟩
  · have hcut := Text.longest_truncate v.display (payloadLimit - lead.utf8ByteSize - 1)
    have hsize := hcut.fits
    rw [Text.byteSize_toList] at hsize
    have hpayload : (menuPayload lead v).1 = lead ++ "_" ++
        Text.truncate v.display (payloadLimit - lead.utf8ByteSize - 1) := by
      simp only [menuPayload, Text.byteSize_toList, if_pos (Nat.not_le.mp hfits)]
    rw [hpayload]
    refine ⟨_, rfl, hcut.begins, by rw [size_payload]; omega, ?_⟩
    intro other hother hroom
    rw [size_payload] at hroom
    exact hcut.longest hother (by rw [Text.byteSize_toList]; omega)

theorem notices_menuPayload (v : Value) :
    (menuPayload lead v).2 = (shortened? lead v (menuPayload lead v).1).toList := by
  by_cases hfits : (lead ++ "_" ++ v.display).utf8ByteSize ≤ payloadLimit
  · rw [menuPayload_of_fits hfits, shortened?]
    simp
  · obtain ⟨-, -, -, hsize, -⟩ := fitted_menuPayload hlead v
    have hne : (menuPayload lead v).1 ≠ lead ++ "_" ++ v.display := by
      intro h
      exact hfits (h ▸ hsize)
    rw [shortened?]
    simp only [if_neg hne]
    simp only [menuPayload, Text.byteSize_toList, if_pos (Nat.not_le.mp hfits), Option.toList_some]

/-- The keyboard of a menu has one row, with a button for each item, in order and with the same
text. Each payload holds the lead and as much of the value as fits: all of it where it can, and
no part of a character. Exactly the shortened values are reported. -/
theorem ofMenu_fitted (m : Menu) :
    ∃ row, (ofMenu lead m).1 = [row] ∧
      List.Forall₂ (fun item b => b.text = item.1 ∧ Fitted lead item.2.display b.payload ∧
        ((lead ++ "_" ++ item.2.display).utf8ByteSize ≤ payloadLimit →
          b.payload = lead ++ "_" ++ item.2.display)) m.items row ∧
      (ofMenu lead m).2 = (m.items.zip row).filterMap fun (item, b) =>
        shortened? lead item.2 b.payload := by
  let button (item : String × Value) : Button := ⟨item.1, (menuPayload lead item.2).1⟩
  refine ⟨m.items.map button, by simp [ofMenu, button], ?_, ?_⟩
  · rw [List.forall₂_map_right_iff]
    refine List.forall₂_same.mpr fun item _ => ⟨rfl, fitted_menuPayload hlead item.2, ?_⟩
    intro hfits
    simp only [button, menuPayload_of_fits hfits]
  · have hnotices (item : String × Value) :
        (menuPayload lead item.2).2 = (shortened? lead item.2 (button item).payload).toList :=
      notices_menuPayload hlead item.2
    rw [← List.map_prod_left_eq_zip, List.filterMap_map, List.filterMap_eq_flatMap_toList]
    simp only [ofMenu, List.flatMap_map, hnotices]
    rfl

end

/-- The second value has no room for its last letters, and the cut falls inside of one of them. -/
def towns : Menu :=
  ⟨"Which town?", [("Paris", .text "Paris"), ("Rome", .text (String.ofList (.replicate 31 'Ῥ')))]⟩

theorem ofMenu_fitted_towns :
    "city".utf8ByteSize < payloadLimit ∧
    ∃ row, (ofMenu "city" towns).1 = [row] ∧
      List.Forall₂ (fun item b => b.text = item.1 ∧ Fitted "city" item.2.display b.payload ∧
        (("city" ++ "_" ++ item.2.display).utf8ByteSize ≤ payloadLimit →
          b.payload = "city" ++ "_" ++ item.2.display)) towns.items row ∧
      (ofMenu "city" towns).2 = (towns.items.zip row).filterMap fun (item, b) =>
        shortened? "city" item.2 b.payload := by
  have hlead : "city".utf8ByteSize < payloadLimit := by decide
  exact ⟨hlead, ofMenu_fitted hlead towns⟩

end Keyboard

end Dialogue
