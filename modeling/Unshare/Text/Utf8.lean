namespace Unshare.Text

-- The text of these places, with U+FFFD for each that spells no character.
def ofPlaces (places : List (Option Char)) : String :=
  String.ofList (places.map (·.getD (Char.ofNat 0xFFFD)))

namespace Utf8

def encodeChars (cs : List Char) : List UInt8 :=
  cs.flatMap String.utf8EncodeChar

def encode (s : String) : List UInt8 :=
  encodeChars s.toList

-- What a leading byte announces: how many bytes follow it, the range of the first of them, and
-- the bits it holds itself.
structure Lead where
  following : Nat
  first : Nat
  last : Nat
  bits : Nat

def lead? (b : UInt8) : Option Lead :=
  let n := b.toNat
  if 0xC2 ≤ n ∧ n ≤ 0xDF then some ⟨1, 0x80, 0xBF, n - 0xC0⟩
  else if n = 0xE0 then some ⟨2, 0xA0, 0xBF, 0⟩
  else if n = 0xED then some ⟨2, 0x80, 0x9F, 0xD⟩
  else if 0xE1 ≤ n ∧ n ≤ 0xEF then some ⟨2, 0x80, 0xBF, n - 0xE0⟩
  else if n = 0xF0 then some ⟨3, 0x90, 0xBF, 0⟩
  else if 0xF1 ≤ n ∧ n ≤ 0xF3 then some ⟨3, 0x80, 0xBF, n - 0xF0⟩
  else if n = 0xF4 then some ⟨3, 0x80, 0x8F, 4⟩
  else none

-- Reads the bytes a leading byte announced: the character if all of them are there, and what is
-- left after the bytes that fit.
def finish (following first last bits : Nat) (bytes : List UInt8) : Option Char × List UInt8 :=
  match following, bytes with
  | 0, rest => (some (Char.ofNat bits), rest)
  | _ + 1, [] => (none, [])
  | n + 1, b :: rest =>
    if first ≤ b.toNat ∧ b.toNat ≤ last then
      finish n 0x80 0xBF (bits * 64 + (b.toNat - 0x80)) rest
    else (none, b :: rest)

theorem length_finish_le (following first last bits : Nat) (bytes : List UInt8) :
    (finish following first last bits bytes).2.length ≤ bytes.length := by
  induction following generalizing first last bits bytes with
  | zero => simp [finish]
  | succ n ih =>
    cases bytes with
    | nil => simp [finish]
    | cons b rest =>
      simp only [finish]
      split
      · exact Nat.le_succ_of_le (ih _ _ _ rest)
      · exact Nat.le_refl _

-- The characters that the bytes spell. Every longest broken beginning of a character is one place
-- that spells nothing.
def decode : List UInt8 → List (Option Char)
  | [] => []
  | b :: rest =>
    if b.toNat < 0x80 then some (Char.ofNat b.toNat) :: decode rest
    else
      match lead? b with
      | none => none :: decode rest
      | some l =>
        (finish l.following l.first l.last l.bits rest).1 ::
          decode (finish l.following l.first l.last l.bits rest).2
termination_by bytes => bytes.length
decreasing_by
  · simp
  · simp
  · exact Nat.lt_succ_of_le (length_finish_le _ _ _ _ rest)

-- The text the bytes spell, if they spell one.
def decode? (bytes : List UInt8) : Option String :=
  ((decode bytes).mapM id).map String.ofList

def decodeLossy (bytes : List UInt8) : String :=
  ofPlaces (decode bytes)

theorem decode_nil : decode [] = [] := by
  simp [decode]

theorem decode_ascii (b : UInt8) (rest : List UInt8) (h : b.toNat < 0x80) :
    decode (b :: rest) = some (Char.ofNat b.toNat) :: decode rest := by
  rw [decode]
  simp [h]

end Utf8

end Unshare.Text
