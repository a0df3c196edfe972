import Unshare.Proofs.Escapes
import Unshare.Proofs.Layouts

namespace Unshare.Text.Utf8

-- A leading byte holds the highest bits of a character that needs so many bytes. The first byte that
-- follows is bounded where a shorter spelling, a surrogate or too great a number would come out.
theorem lead?_inv {b : UInt8} {following first last bits : Nat}
    (h : lead? b = some ⟨following, first, last, bits⟩) :
    0x80 ≤ first ∧ last ≤ 0xBF ∧
      (following = 1 ∧ b.toNat = bits + 192 ∧ 2 ≤ bits ∧ bits < 32 ∨
        following = 2 ∧ b.toNat = bits + 224 ∧ bits < 16 ∧ (bits = 0 → 0xA0 ≤ first) ∧
          (bits = 13 → last ≤ 0x9F) ∨
        following = 3 ∧ b.toNat = bits + 240 ∧ bits < 5 ∧ (bits = 0 → 0x90 ≤ first) ∧
          (bits = 4 → last ≤ 0x8F)) := by
  simp only [lead?] at h
  repeat' split at h
  all_goals cases h
  all_goals omega

theorem finish_inv {following first last bits : Nat} {bytes left : List UInt8} {c : Char}
    (hfirst : 0x80 ≤ first) (hlast : last ≤ 0xBF)
    (h : finish (following + 1) first last bits bytes = (some c, left)) :
    ∃ k rest, k < 64 ∧ first ≤ k + 128 ∧ k + 128 ≤ last ∧ bytes = UInt8.ofNat (k + 128) :: rest ∧
      finish following 0x80 0xBF (bits * 64 + k) rest = (some c, left) := by
  cases bytes with
  | nil => cases h
  | cons b rest =>
    rw [finish] at h
    split at h
    · refine ⟨b.toNat - 128, rest, by omega, by omega, by omega, ?_, h⟩
      rw [Nat.sub_add_cancel (by omega), UInt8.ofNat_toNat]
    · cases h

theorem utf8EncodeChar_of_two {n : Nat} (hlow : 0x7F < n) (hhigh : n ≤ 0x7FF) :
    String.utf8EncodeChar (Char.ofNat n) =
      [UInt8.ofNat (n / 64 + 192), UInt8.ofNat (n % 64 + 128)] := by
  have hn : (Char.ofNat n).val.toNat = n := toNat_ofNat (by omega)
  simp only [String.utf8EncodeChar, hn]
  rw [if_neg (by omega), if_pos hhigh, Nat.mod_eq_of_lt (by omega : n / 64 < 32)]

theorem utf8EncodeChar_of_three {n : Nat} (hlow : 0x7FF < n) (hhigh : n ≤ 0xFFFF)
    (hvalid : n < 0xD800 ∨ 0xDFFF < n) :
    String.utf8EncodeChar (Char.ofNat n) =
      [UInt8.ofNat (n / 4096 + 224), UInt8.ofNat (n / 64 % 64 + 128),
        UInt8.ofNat (n % 64 + 128)] := by
  have hn : (Char.ofNat n).val.toNat = n := toNat_ofNat_of_valid (by omega)
  simp only [String.utf8EncodeChar, hn]
  rw [if_neg (by omega), if_neg (by omega), if_pos hhigh,
    Nat.mod_eq_of_lt (by omega : n / 4096 < 16)]

theorem utf8EncodeChar_of_four {n : Nat} (hlow : 0xFFFF < n) (hhigh : n < 0x110000) :
    String.utf8EncodeChar (Char.ofNat n) =
      [UInt8.ofNat (n / 262144 + 240), UInt8.ofNat (n / 4096 % 64 + 128),
        UInt8.ofNat (n / 64 % 64 + 128), UInt8.ofNat (n % 64 + 128)] := by
  have hn : (Char.ofNat n).val.toNat = n := toNat_ofNat_of_valid (by omega)
  simp only [String.utf8EncodeChar, hn]
  rw [if_neg (by omega), if_neg (by omega), if_neg (by omega),
    Nat.mod_eq_of_lt (by omega : n / 262144 < 8)]

-- A leading byte whose announced bytes are all there begins the bytes of the character read.
theorem encode_of_finish {b : UInt8} {following first last bits : Nat} {rest left : List UInt8}
    {c : Char} (hlead : lead? b = some ⟨following, first, last, bits⟩)
    (h : finish following first last bits rest = (some c, left)) :
    b :: rest = String.utf8EncodeChar c ++ left := by
  obtain ⟨hfirst, hlast, hcases⟩ := lead?_inv hlead
  rw [← UInt8.ofNat_toNat (x := b)]
  rcases hcases with ⟨rfl, hb, hlow, hhigh⟩ | ⟨rfl, hb, hbound, hlow, hsurrogate⟩ |
    ⟨rfl, hb, hbound, hlow, hhigh⟩
  · obtain ⟨k, rest, hk, -, -, rfl, hdone⟩ := finish_inv hfirst hlast h
    cases hdone
    rw [utf8EncodeChar_of_two (by omega) (by omega), hb]
    have hbits : (bits * 64 + k) / 64 = bits ∧ (bits * 64 + k) % 64 = k := by omega
    rw [hbits.1, hbits.2]
    rfl
  · obtain ⟨j, rest, hj, hjfirst, hjlast, rfl, hafter⟩ := finish_inv hfirst hlast h
    obtain ⟨k, rest, hk, -, -, rfl, hdone⟩ := finish_inv (Nat.le_refl _) (Nat.le_refl _) hafter
    cases hdone
    rw [utf8EncodeChar_of_three (by omega) (by omega) (by omega), hb]
    have hbits : ((bits * 64 + j) * 64 + k) / 4096 = bits ∧
        ((bits * 64 + j) * 64 + k) / 64 % 64 = j ∧ ((bits * 64 + j) * 64 + k) % 64 = k := by
      omega
    rw [hbits.1, hbits.2.1, hbits.2.2]
    rfl
  · obtain ⟨i, rest, hi, hifirst, hilast, rfl, hafter⟩ := finish_inv hfirst hlast h
    obtain ⟨j, rest, hj, -, -, rfl, hlater⟩ := finish_inv (Nat.le_refl _) (Nat.le_refl _) hafter
    obtain ⟨k, rest, hk, -, -, rfl, hdone⟩ := finish_inv (Nat.le_refl _) (Nat.le_refl _) hlater
    cases hdone
    rw [utf8EncodeChar_of_four (by omega) (by omega), hb]
    have hbits : (((bits * 64 + i) * 64 + j) * 64 + k) / 262144 = bits ∧
        (((bits * 64 + i) * 64 + j) * 64 + k) / 4096 % 64 = i ∧
        (((bits * 64 + i) * 64 + j) * 64 + k) / 64 % 64 = j ∧
        (((bits * 64 + i) * 64 + j) * 64 + k) % 64 = k := by
      omega
    rw [hbits.1, hbits.2.1, hbits.2.2.1, hbits.2.2.2]
    rfl

-- The first character read takes exactly its own bytes away.
theorem decode_cons_inv {bytes : List UInt8} {c : Char} {places : List (Option Char)}
    (h : decode bytes = some c :: places) :
    ∃ left, bytes = String.utf8EncodeChar c ++ left ∧ decode left = places := by
  cases bytes with
  | nil =>
    rw [decode_nil] at h
    cases h
  | cons b rest =>
    rw [decode] at h
    split at h
    · rename_i hb
      obtain ⟨hc, hrest⟩ := List.cons.inj h
      have hbyte : String.utf8EncodeChar c = [b] := by
        rw [← Option.some.inj hc]
        exact Percent.utf8EncodeChar_byteChar hb
      exact ⟨rest, by rw [hbyte, List.singleton_append], hrest⟩
    · split at h
      · cases h
      · rename_i l hlead
        obtain ⟨hc, hrest⟩ := List.cons.inj h
        exact ⟨_, encode_of_finish hlead (Prod.ext hc rfl), hrest⟩

theorem decode_eq_map_some_iff {bytes : List UInt8} {cs : List Char} :
    decode bytes = cs.map some ↔ bytes = encodeChars cs := by
  constructor
  · intro h
    induction cs generalizing bytes with
    | nil =>
      cases bytes with
      | nil => rfl
      | cons b rest =>
        rw [decode] at h
        repeat' split at h
        all_goals cases h
    | cons c cs ih =>
      obtain ⟨left, rfl, hleft⟩ := decode_cons_inv h
      rw [ih hleft]
      rfl
  · rintro rfl
    exact decode_encodeChars cs

-- Bytes are the text whose bytes they are, or no text.
theorem decode?_eq_some_iff {bytes : List UInt8} {s : String} :
    decode? bytes = some s ↔ bytes = encode s := by
  have hplaces : ∀ cs, (decode bytes).mapM id = some cs ↔ bytes = encodeChars cs := by
    intro cs
    rw [← decode_eq_map_some_iff, Json.mapM_eq_some_iff, ← List.forall₂_eq_eq_eq,
      List.forall₂_map_right_iff]
    rfl
  rw [decode?, Option.map_eq_some_iff]
  constructor
  · rintro ⟨cs, hcs, rfl⟩
    rw [encode, String.toList_ofList]
    exact (hplaces cs).mp hcs
  · intro hbytes
    exact ⟨s.toList, (hplaces s.toList).mpr hbytes, String.ofList_toList⟩

end Unshare.Text.Utf8
