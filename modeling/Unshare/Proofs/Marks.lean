import Unshare.Proofs.Escapes
import Unshare.Remote.Basic

namespace Unshare

namespace Text.Utf16

-- The units of a character: its number, or two surrogates where one unit is too small for it.
def unitsOf (c : Char) : List Nat :=
  if c.toNat < 0x10000 then [c.toNat]
  else [0xD800 + (c.toNat - 0x10000) / 0x400, 0xDC00 + (c.toNat - 0x10000) % 0x400]

def Order.bytes (order : Order) (unit : Nat) : List UInt8 :=
  match order with
  | .lowFirst => [UInt8.ofNat (unit % 256), UInt8.ofNat (unit / 256)]
  | .highFirst => [UInt8.ofNat (unit / 256), UInt8.ofNat (unit % 256)]

def encode (order : Order) (s : String) : List UInt8 :=
  (s.toList.flatMap unitsOf).flatMap order.bytes

theorem range_toNat (c : Char) :
    c.toNat < 0xD800 ∨ 0xDFFF < c.toNat ∧ c.toNat < 0x110000 := c.valid

theorem unitsOf_lt (c : Char) : ∀ unit ∈ unitsOf c, unit < 0x10000 := by
  have hrange := range_toNat c
  rw [unitsOf]
  split
  · rw [List.forall_mem_singleton]
    assumption
  · rw [List.forall_mem_cons, List.forall_mem_singleton]
    omega

theorem units_bytes (order : Order) {us : List Nat} (h : ∀ unit ∈ us, unit < 0x10000) :
    units order (us.flatMap order.bytes) = (us, false) := by
  induction us with
  | nil => rfl
  | cons unit rest ih =>
    obtain ⟨hunit, hrest⟩ := List.forall_mem_cons.mp h
    have hlow : (UInt8.ofNat (unit % 256)).toNat = unit % 256 :=
      UInt8.toNat_ofNat_of_lt (Nat.mod_lt _ (by decide))
    have hhigh : (UInt8.ofNat (unit / 256)).toNat = unit / 256 :=
      UInt8.toNat_ofNat_of_lt (Nat.div_lt_of_lt_mul hunit)
    cases order <;>
      simp only [List.flatMap_cons, Order.bytes, List.cons_append, List.nil_append, units,
        ih hrest, Order.unit, hlow, hhigh, Nat.div_add_mod']

-- A character takes one place, whichever way it is written.
theorem decodeUnits_unitsOf (c : Char) (rest : List Nat) :
    decodeUnits false none (unitsOf c ++ rest) = some c :: decodeUnits false none rest := by
  have hrange := range_toNat c
  rw [unitsOf]
  split
  · have hhigh : isHigh c.toNat = false := by
      simp [isHigh]
      omega
    have hlow : isLow c.toNat = false := by
      simp [isLow]
      omega
    rw [List.singleton_append, decodeUnits, hhigh, hlow, Char.ofNat_toNat]
    rfl
  · have hhigh : isHigh (0xD800 + (c.toNat - 0x10000) / 0x400) = true := by
      simp [isHigh]
      omega
    have hlow : isLow (0xDC00 + (c.toNat - 0x10000) % 0x400) = true := by
      simp [isLow]
      omega
    have hpaired : paired (0xD800 + (c.toNat - 0x10000) / 0x400)
        (0xDC00 + (c.toNat - 0x10000) % 0x400) = c := by
      have hnumber : 0x10000 + (0xD800 + (c.toNat - 0x10000) / 0x400 - 0xD800) * 0x400 +
          (0xDC00 + (c.toNat - 0x10000) % 0x400 - 0xDC00) = c.toNat := by omega
      rw [paired, hnumber, Char.ofNat_toNat]
    simp only [List.cons_append, List.nil_append, decodeUnits, hhigh, hlow, hpaired, if_true]

theorem decode_encode (order : Order) (s : String) :
    decode order (encode order s) = s.toList.map some := by
  have hunits : ∀ unit ∈ s.toList.flatMap unitsOf, unit < 0x10000 := by
    intro unit hunit
    obtain ⟨c, -, hc⟩ := List.mem_flatMap.mp hunit
    exact unitsOf_lt c unit hc
  rw [decode, encode, units_bytes order hunits]
  simp only
  induction s.toList with
  | nil => rfl
  | cons c rest ih => rw [List.flatMap_cons, decodeUnits_unitsOf, ih, List.map_cons]

theorem decodeLossy_encode (order : Order) (s : String) :
    decodeLossy order (encode order s) = s := by
  rw [decodeLossy, decode_encode, ofPlaces_map_some]

end Text.Utf16

namespace Text.Utf8

-- Two bytes begin no character.
theorem decode_cons_of_not_lead {b : UInt8} (hb : b = 0xFE ∨ b = 0xFF) (rest : List UInt8) :
    decode (b :: rest) = none :: decode rest := by
  have hlead : ¬b.toNat < 0x80 ∧ lead? b = none := by
    rcases hb with rfl | rfl <;> decide
  rw [decode, if_neg hlead.1, hlead.2]

theorem encode_ne_of_not_lead {b : UInt8} (hb : b = 0xFE ∨ b = 0xFF) (s : String)
    (rest : List UInt8) : encode s ≠ b :: rest := by
  intro hbytes
  have hplaces := decode_encodeChars s.toList
  rw [← encode, hbytes, decode_cons_of_not_lead hb] at hplaces
  cases hs : s.toList with
  | nil => simp [hs] at hplaces
  | cons c cs => simp [hs] at hplaces

theorem head?_of_encode_marked {s : String} {rest : List UInt8}
    (h : encode s = 0xEF :: 0xBB :: 0xBF :: rest) :
    s.toList.head? = some (Char.ofNat 0xFEFF) := by
  have hmark : String.utf8EncodeChar (Char.ofNat 0xFEFF) = [0xEF, 0xBB, 0xBF] := by decide
  have hplaces := decode_encodeChars s.toList
  have hread := decode_utf8EncodeChar (Char.ofNat 0xFEFF) rest
  rw [hmark, List.cons_append, List.cons_append, List.cons_append, List.nil_append, ← h, encode,
    hplaces] at hread
  have hhead := congrArg List.head? hread
  rw [List.head?_map, List.head?_cons] at hhead
  simpa using hhead

end Text.Utf8

namespace Remote.Body

-- Behind its mark a body is read as the text that was written, whatever is declared for it.
theorem text_of_marked (s : String) (declared : Option String) :
    (Body.mk (0xEF :: 0xBB :: 0xBF :: Text.Utf8.encode s) declared).text = s ∧
      (Body.mk (0xFF :: 0xFE :: Text.Utf16.encode .lowFirst s) declared).text = s ∧
      (Body.mk (0xFE :: 0xFF :: Text.Utf16.encode .highFirst s) declared).text = s :=
  ⟨Text.Utf8.decodeLossy_encode s, Text.Utf16.decodeLossy_encode _ s,
    Text.Utf16.decodeLossy_encode _ s⟩

-- Without a mark it is UTF-8, if nothing else is declared. A text that begins with the character of
-- the mark cannot do without.
theorem text_of_unmarked {s : String} (h : s.toList.head? ≠ some (Char.ofNat 0xFEFF)) :
    (plain (Text.Utf8.encode s)).text = s := by
  rw [plain, text]
  split
  · rename_i hbytes
    exact absurd (Text.Utf8.head?_of_encode_marked hbytes) h
  · rename_i hbytes
    exact absurd hbytes (Text.Utf8.encode_ne_of_not_lead (.inr rfl) s _)
  · rename_i hbytes
    exact absurd hbytes (Text.Utf8.encode_ne_of_not_lead (.inl rfl) s _)
  · exact Text.Utf8.decodeLossy_encode s

end Remote.Body

end Unshare
