import Unshare.Proofs.Characters
import Unshare.Text.Percent

namespace Unshare.Text

-- A text is read off the places of its characters.
theorem ofPlaces_map_some (s : String) : ofPlaces (s.toList.map some) = s := by
  have hall : (s.toList.map some).map (·.getD (Char.ofNat 0xFFFD)) = s.toList := by
    rw [List.map_map]
    exact List.map_id _
  rw [ofPlaces, hall, String.ofList_toList]

theorem utf8EncodeChar_of_ascii {c : Char} (h : c.toNat < 0x80) :
    String.utf8EncodeChar c = [UInt8.ofNat c.toNat] := by
  have hc : c.val.toNat ≤ 127 := Nat.le_of_lt_succ h
  simp only [String.utf8EncodeChar, hc, if_true]
  rfl

theorem Utf8.encodeChars_cons_of_ascii {c : Char} (h : c.toNat < 0x80) (cs : List Char) :
    Utf8.encodeChars (c :: cs) = UInt8.ofNat c.toNat :: Utf8.encodeChars cs := by
  rw [Utf8.encodeChars, List.flatMap_cons, utf8EncodeChar_of_ascii h]
  rfl

theorem Utf8.encodeChars_injective {cs ds : List Char}
    (h : Utf8.encodeChars cs = Utf8.encodeChars ds) : cs = ds := by
  have hb : (String.ofList cs).toByteArray = (String.ofList ds).toByteArray := by
    simp only [String.toByteArray_ofList, List.utf8Encode]
    exact congrArg List.toByteArray h
  exact String.ofList_injective (String.toByteArray_inj.mp hb)

theorem Utf8.encode_injective {s t : String} (h : Utf8.encode s = Utf8.encode t) : s = t :=
  String.toList_injective (Utf8.encodeChars_injective h)

theorem Utf8.decode_of_ascii {bytes : List UInt8} (h : ∀ b ∈ bytes, b.toNat < 0x80) :
    Utf8.decode bytes = bytes.map fun b => some (Percent.byteChar b) := by
  induction bytes with
  | nil => exact Utf8.decode_nil
  | cons b rest ih =>
    obtain ⟨hb, hrest⟩ := List.forall_mem_cons.mp h
    rw [Utf8.decode_ascii b rest hb, ih hrest]
    rfl

namespace Utf8

-- A leading byte together with what follows it.
theorem decode_of_lead? {b : UInt8} {following first last bits : Nat} {rest left : List UInt8}
    {c : Option Char} (hlead : lead? b = some ⟨following, first, last, bits⟩)
    (hfinish : finish following first last bits rest = (c, left)) :
    decode (b :: rest) = c :: decode left := by
  have hb : ¬b.toNat < 0x80 := by
    intro hlow
    simp only [lead?] at hlead
    repeat' rw [if_neg (by omega)] at hlead
    cases hlead
  rw [decode, if_neg hb, hlead]
  simp only [hfinish]

theorem toNat_following (k : Nat) : (UInt8.ofNat (k % 64 + 128)).toNat = k % 64 + 128 := by
  rw [UInt8.toNat_ofNat', Nat.mod_eq_of_lt (by omega)]

theorem finish_following {following first last bits k : Nat} (rest : List UInt8)
    (hfirst : first ≤ k % 64 + 128) (hlast : k % 64 + 128 ≤ last) :
    finish (following + 1) first last bits (UInt8.ofNat (k % 64 + 128) :: rest) =
      finish following 0x80 0xBF (bits * 64 + k % 64) rest := by
  rw [finish, toNat_following, if_pos ⟨hfirst, hlast⟩, Nat.add_sub_cancel]

theorem lead?_of_two {n : Nat} (hlow : 0x7F < n) (hhigh : n ≤ 0x7FF) :
    lead? (UInt8.ofNat (n / 64 % 32 + 192)) = some ⟨1, 0x80, 0xBF, n / 64⟩ := by
  have hn : (UInt8.ofNat (n / 64 % 32 + 192)).toNat = n / 64 + 192 := by
    rw [UInt8.toNat_ofNat', Nat.mod_eq_of_lt (by omega)]
    omega
  simp only [lead?, hn]
  rw [if_pos (by omega), Nat.add_sub_cancel]

-- The first byte that follows is bounded where a shorter form or a surrogate would be spelt.
theorem lead?_of_three {n : Nat} (hlow : 0x7FF < n) (hhigh : n ≤ 0xFFFF)
    (hvalid : n < 0xD800 ∨ 0xDFFF < n) :
    ∃ first last, lead? (UInt8.ofNat (n / 4096 % 16 + 224)) = some ⟨2, first, last, n / 4096⟩ ∧
      first ≤ n / 64 % 64 + 128 ∧ n / 64 % 64 + 128 ≤ last := by
  have hn : (UInt8.ofNat (n / 4096 % 16 + 224)).toNat = n / 4096 + 224 := by
    rw [UInt8.toNat_ofNat', Nat.mod_eq_of_lt (by omega)]
    omega
  simp only [lead?, hn]
  rw [if_neg (by omega)]
  split
  · exact ⟨0xA0, 0xBF, by simp; omega, by omega, by omega⟩
  split
  · exact ⟨0x80, 0x9F, by simp; omega, by omega, by omega⟩
  rw [if_pos (by omega), Nat.add_sub_cancel]
  exact ⟨_, _, rfl, by omega, by omega⟩

theorem lead?_of_four {n : Nat} (hlow : 0xFFFF < n) (hhigh : n < 0x110000) :
    ∃ first last, lead? (UInt8.ofNat (n / 262144 % 8 + 240)) =
      some ⟨3, first, last, n / 262144⟩ ∧
        first ≤ n / 4096 % 64 + 128 ∧ n / 4096 % 64 + 128 ≤ last := by
  have hn : (UInt8.ofNat (n / 262144 % 8 + 240)).toNat = n / 262144 + 240 := by
    rw [UInt8.toNat_ofNat', Nat.mod_eq_of_lt (by omega)]
    omega
  simp only [lead?, hn]
  repeat rw [if_neg (by omega)]
  split
  · exact ⟨0x90, 0xBF, by simp; omega, by omega, by omega⟩
  split
  · exact ⟨0x80, 0xBF, by simp, by omega, by omega⟩
  rw [if_pos (by omega)]
  exact ⟨0x80, 0x8F, by simp; omega, by omega, by omega⟩

theorem decode_utf8EncodeChar (c : Char) (rest : List UInt8) :
    decode (String.utf8EncodeChar c ++ rest) = some c :: decode rest := by
  have hvalid : c.val.toNat < 0xD800 ∨ 0xDFFF < c.val.toNat ∧ c.val.toNat < 0x110000 := c.valid
  have hc : ∀ n, n = c.val.toNat → Char.ofNat n = c := by
    rintro n rfl
    exact Char.ofNat_toNat c
  by_cases hone : c.val.toNat ≤ 0x7F
  · have hn : (UInt8.ofNat c.toNat).toNat = c.val.toNat :=
      UInt8.toNat_ofNat_of_lt (Nat.lt_of_le_of_lt hone (by decide))
    rw [utf8EncodeChar_of_ascii (Nat.lt_succ_of_le hone), List.singleton_append,
      decode_ascii _ _ (by omega), hc _ hn]
  simp only [String.utf8EncodeChar, if_neg hone]
  by_cases htwo : c.val.toNat ≤ 0x7FF
  · rw [if_pos htwo]
    simp only [List.cons_append, List.nil_append]
    refine decode_of_lead? (lead?_of_two (by omega) htwo) ?_
    rw [finish_following _ (by omega) (by omega), finish, hc _ (by omega)]
  rw [if_neg htwo]
  by_cases hthree : c.val.toNat ≤ 0xFFFF
  · rw [if_pos hthree]
    simp only [List.cons_append, List.nil_append]
    obtain ⟨first, last, hlead, hfirst, hlast⟩ := lead?_of_three (by omega) hthree (by omega)
    refine decode_of_lead? hlead ?_
    rw [finish_following _ hfirst hlast, finish_following _ (by omega) (by omega), finish,
      hc _ (by omega)]
  · rw [if_neg hthree]
    simp only [List.cons_append, List.nil_append]
    obtain ⟨first, last, hlead, hfirst, hlast⟩ := lead?_of_four (n := c.val.toNat) (by omega)
      (by omega)
    refine decode_of_lead? hlead ?_
    rw [finish_following _ hfirst hlast, finish_following _ (by omega) (by omega),
      finish_following _ (by omega) (by omega), finish, hc _ (by omega)]

theorem decode_encodeChars (cs : List Char) : decode (encodeChars cs) = cs.map some := by
  induction cs with
  | nil => exact decode_nil
  | cons c rest ih =>
    rw [encodeChars, List.flatMap_cons, decode_utf8EncodeChar]
    exact congrArg _ ih

theorem decodeLossy_encode (s : String) : decodeLossy (encode s) = s := by
  rw [decodeLossy, encode, decode_encodeChars, ofPlaces_map_some]

end Utf8

namespace Percent

theorem utf8EncodeChar_byteChar {b : UInt8} (h : b.toNat < 0x80) :
    String.utf8EncodeChar (byteChar b) = [b] := by
  have hn : (byteChar b).toNat = b.toNat := toNat_ofNat (by omega)
  rw [utf8EncodeChar_of_ascii (by omega), hn, UInt8.ofNat_toNat]

theorem upperHex_spec {n : Nat} (h : n < 16) :
    (upperHex n).toNat < 0x80 ∧ hexDigit? (upperHex n) = some n := by
  have hall : ∀ n ∈ List.range 16, (upperHex n).toNat < 0x80 ∧ hexDigit? (upperHex n) = some n := by
    decide
  exact hall n (List.mem_range.mpr h)

theorem hexByte?_upperHex {n : Nat} (h : n < 16) :
    hexByte? (UInt8.ofNat (upperHex n).toNat) = some n := by
  obtain ⟨hlt, hdigit⟩ := upperHex_spec h
  have hn : (UInt8.ofNat (upperHex n).toNat).toNat = (upperHex n).toNat :=
    UInt8.toNat_ofNat_of_lt (Nat.lt_trans hlt (by decide))
  rw [hexByte?, byteChar, hn, Char.ofNat_toNat, hdigit]

-- An escaped byte is three bytes of ASCII.
theorem encodeChars_escape (b : UInt8) : ∃ high low,
    Utf8.encodeChars (escape b) = [0x25, high, low] ∧ escaped? high low = some b := by
  have hb : b.toNat < 256 := b.toNat_lt
  have hhigh : b.toNat / 16 < 16 := by omega
  have hlow : b.toNat % 16 < 16 := by omega
  have hsum : b.toNat / 16 * 16 + b.toNat % 16 = b.toNat := by omega
  refine ⟨UInt8.ofNat (upperHex (b.toNat / 16)).toNat, UInt8.ofNat (upperHex (b.toNat % 16)).toNat,
    ?_, ?_⟩
  · simp only [Utf8.encodeChars, escape, List.flatMap_cons, List.flatMap_nil,
      utf8EncodeChar_of_ascii (upperHex_spec hhigh).1, utf8EncodeChar_of_ascii (upperHex_spec hlow).1]
    rfl
  · simp only [escaped?, hexByte?_upperHex hhigh, hexByte?_upperHex hlow, hsum, UInt8.ofNat_toNat]

theorem encodeChars_byteChar {b : UInt8} (h : b.toNat < 0x80) :
    Utf8.encodeChars [byteChar b] = [b] := by
  rw [Utf8.encodeChars, List.flatMap_singleton, utf8EncodeChar_byteChar h]

theorem decodeBytes_escape (b : UInt8) (rest : List UInt8) :
    decodeBytes (Utf8.encodeChars (escape b) ++ rest) = b :: decodeBytes rest := by
  obtain ⟨high, low, hbytes, hescaped⟩ := encodeChars_escape b
  rw [hbytes]
  simp only [List.cons_append, List.nil_append, decodeBytes, hescaped]

theorem decodeBytes_cons_of_ne {b : UInt8} (h : b ≠ 0x25) (rest : List UInt8) :
    decodeBytes (b :: rest) = b :: decodeBytes rest := by
  rw [decodeBytes]
  intro high low rest' hb
  exact fun _ => h hb

-- What is written plainly must be ASCII and no `%`; everything else is up to the writer.
theorem decodeBytes_encodeBytes {plain : UInt8 → Bool} (hplain : ∀ b, plain b = true →
    b.toNat < 0x80 ∧ b ≠ 0x25) (bytes : List UInt8) :
    decodeBytes (Utf8.encodeChars (encodeBytes plain bytes)) = bytes := by
  induction bytes with
  | nil => rfl
  | cons b rest ih =>
    have hsplit : Utf8.encodeChars (encodeBytes plain (b :: rest)) =
        Utf8.encodeChars (if plain b then [byteChar b] else escape b) ++
          Utf8.encodeChars (encodeBytes plain rest) := by
      simp only [encodeBytes, Utf8.encodeChars, List.flatMap_cons, List.flatMap_append]
    rw [hsplit]
    cases hb : plain b with
    | false =>
      simp only [Bool.false_eq_true, if_false]
      rw [decodeBytes_escape, ih]
    | true =>
      obtain ⟨hlt, hne⟩ := hplain b hb
      simp only [if_true, encodeChars_byteChar hlt, List.cons_append, List.nil_append]
      rw [decodeBytes_cons_of_ne hne, ih]

theorem decodeChars_encodeChars {plain : UInt8 → Bool} (hplain : ∀ b, plain b = true →
    b.toNat < 0x80 ∧ b ≠ 0x25) (cs : List Char) :
    decodeChars (encodeChars plain cs) = Utf8.encodeChars cs :=
  decodeBytes_encodeBytes hplain _

end Percent

end Unshare.Text
