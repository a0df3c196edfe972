namespace Unshare.Url.Punycode

def digit (n : Nat) : Char :=
  if n < 26 then Char.ofNat ('a'.toNat + n) else Char.ofNat ('0'.toNat + (n - 26))

def digit? (c : Char) : Option Nat :=
  if 'a' ≤ c ∧ c ≤ 'z' then some (c.toNat - 'a'.toNat)
  else if 'A' ≤ c ∧ c ≤ 'Z' then some (c.toNat - 'A'.toNat)
  else if '0' ≤ c ∧ c ≤ '9' then some (c.toNat - '0'.toNat + 26)
  else none

theorem digit?_digit {n : Nat} (h : n < 36) : digit? (digit n) = some n := by
  have all : ∀ m ∈ List.range 36, digit? (digit m) = some m := by decide
  exact all n (List.mem_range.mpr h)

-- The least digit at a place that ends a number there is below this.
def threshold (place bias : Nat) : Nat :=
  max 1 (min 26 (36 * (place + 1) - bias))

theorem threshold_pos (place bias : Nat) : 0 < threshold place bias := by
  unfold threshold; omega

theorem threshold_le (place bias : Nat) : threshold place bias ≤ 26 := by
  unfold threshold; omega

-- Writes a distance from the given place on.
def write (bias place n : Nat) : List Char :=
  let t := threshold place bias
  if n < t then [digit n]
  else digit (t + (n - t) % (36 - t)) :: write bias (place + 1) ((n - t) / (36 - t))
termination_by n
decreasing_by
  have := threshold_pos place bias
  have := Nat.div_le_self (n - threshold place bias) (36 - threshold place bias)
  omega

-- Reads a distance from the given place on: the distance and what follows it.
def read? (bias place : Nat) : List Char → Option (Nat × List Char)
  | [] => none
  | c :: rest => do
    let d ← digit? c
    let t := threshold place bias
    if d < t then return (d, rest)
    else
      let (n, rest) ← read? bias (place + 1) rest
      return (d + n * (36 - t), rest)

theorem read?_write (bias place n : Nat) (rest : List Char) :
    read? bias place (write bias place n ++ rest) = some (n, rest) := by
  have hpos := threshold_pos place bias
  have hle := threshold_le place bias
  rw [write]
  split
  · rename_i h
    simp only [List.cons_append, List.nil_append, read?, digit?_digit (show n < 36 by omega)]
    simp [h]
  · rename_i h
    have hlt : (n - threshold place bias) % (36 - threshold place bias)
        < 36 - threshold place bias := Nat.mod_lt _ (by omega)
    have hdiv := Nat.mod_add_div' (n - threshold place bias) (36 - threshold place bias)
    simp only [List.cons_append, read?, digit?_digit (show threshold place bias
      + (n - threshold place bias) % (36 - threshold place bias) < 36 by omega)]
    have ih := read?_write bias (place + 1)
      ((n - threshold place bias) / (36 - threshold place bias)) rest
    simp only [Option.bind_eq_bind, Option.bind_some, ih]
    rw [if_neg (by omega)]
    simp only [Option.pure_def, Option.some.injEq, Prod.mk.injEq, and_true]
    omega
termination_by n
decreasing_by
  have := Nat.div_le_self (n - threshold place bias) (36 - threshold place bias)
  omega

theorem length_lt_of_read? {bias place : Nat} {cs rest : List Char} {n : Nat}
    (h : read? bias place cs = some (n, rest)) : rest.length < cs.length := by
  induction cs generalizing place n rest with
  | nil => simp [read?] at h
  | cons c more ih =>
    simp only [read?, Option.bind_eq_bind, Option.bind_eq_some_iff] at h
    obtain ⟨d, -, h⟩ := h
    split at h
    · simp only [Option.pure_def, Option.some.injEq, Prod.mk.injEq] at h
      simp [← h.2]
    · obtain ⟨⟨m, left⟩, hread, h⟩ := Option.bind_eq_some_iff.mp h
      simp only [Option.pure_def, Option.some.injEq, Prod.mk.injEq] at h
      have := ih hread
      simp only [List.length_cons]
      rw [← h.2]
      omega

-- How often a distance is divided by 35 before it is at most 455, and what is left of it.
def shrink (distance : Nat) : Nat × Nat :=
  if 455 < distance then
    let (times, left) := shrink (distance / 35)
    (times + 1, left)
  else (0, distance)
termination_by distance
decreasing_by omega

-- The bias after a distance, where `count` characters are in place. The first distance is likely
-- to be large and counts for less.
def biasAfter (distance count : Nat) (isFirst : Bool) : Nat :=
  let start := if isFirst then distance / 700 else distance / 2
  let (times, left) := shrink (start + start / count)
  36 * times + 36 * left / (left + 38)

-- A label that is being written: the counter, how many characters are in place, and the bias.
structure Writing where
  counter : Nat
  placed : Nat
  bias : Nat
  isFirst : Bool
  written : List Char

-- Passes one place of the label while characters with code point `n` are written.
def Writing.pass (n : Nat) (writing : Writing) (c : Char) : Writing :=
  if c.toNat < n then { writing with counter := writing.counter + 1 }
  else if c.toNat = n then
    { counter := 0
      placed := writing.placed + 1
      bias := biasAfter writing.counter (writing.placed + 1) writing.isFirst
      isFirst := false
      written := writing.written ++ write writing.bias 0 writing.counter }
  else writing

-- Runs the counter from the last code point to `n`, and over the label.
def Writing.turn (label : List Char) (state : Nat × Writing) (n : Nat) : Nat × Writing :=
  let (last, writing) := state
  let start := { writing with counter := writing.counter + (n - last) * (writing.placed + 1) }
  let finish := label.foldl (Writing.pass n) start
  (n + 1, { finish with counter := finish.counter + 1 })

def encode (label : List Char) : List Char :=
  let plain := label.filter (·.toNat < 0x80)
  let others := ((label.map Char.toNat).filter (0x80 ≤ ·)).mergeSort.eraseDups
  let start : Writing := ⟨0, plain.length, 72, true, []⟩
  (if plain = [] then [] else plain ++ ['-'])
    ++ (others.foldl (Writing.turn label) (0x80, start)).2.written

-- Puts the characters of the distances in their places. The counter stands at `place` of `n`.
def insertAll (bias n place : Nat) (isFirst : Bool) (label : List Char) (cs : List Char) :
    Option (List Char) :=
  if cs = [] then some label
  else
    match _ : read? bias 0 cs with
    | none => none
    | some (distance, rest) =>
      let count := label.length + 1
      let code := n + (place + distance) / count
      let here := (place + distance) % count
      if code.isValidChar then
        insertAll (biasAfter distance count isFirst) code (here + 1) false
          (label.take here ++ Char.ofNat code :: label.drop here) rest
      else none
termination_by cs.length
decreasing_by exact length_lt_of_read? ‹_›

-- Splits at the last hyphen; without a character before it all is distances.
def halves (cs : List Char) : List Char × List Char :=
  let distances := (cs.reverse.takeWhile (· ≠ '-')).reverse
  let plain := (cs.take (cs.length - distances.length)).dropLast
  if plain = [] then ([], cs) else (plain, distances)

def decode? (cs : List Char) : Option (List Char) :=
  let (plain, distances) := halves cs
  if plain.all (·.toNat < 0x80) then insertAll 72 0x80 0 true plain distances else none

end Unshare.Url.Punycode
