namespace Unshare.Text

-- The code points with the property White_Space, as closed ranges in rising order.
def blankRanges : List (Nat × Nat) :=
  [(0x09, 0x0D), (0x20, 0x20), (0x85, 0x85), (0xA0, 0xA0), (0x1680, 0x1680), (0x2000, 0x200A),
   (0x2028, 0x2029), (0x202F, 0x202F), (0x205F, 0x205F), (0x3000, 0x3000)]

def isBlankChar (c : Char) : Bool :=
  blankRanges.any fun (first, last) => first ≤ c.toNat && c.toNat ≤ last

-- Drops the blanks at both ends.
def trimChars (cs : List Char) : List Char :=
  ((cs.dropWhile isBlankChar).reverse.dropWhile isBlankChar).reverse

def trim (s : String) : String :=
  String.ofList (trimChars s.toList)

def isBlank (s : String) : Bool :=
  s.toList.all isBlankChar

-- The trimmed text, or nothing where only blanks were given.
def present (s : Option String) : Option String :=
  (s.map trim).filter fun t => !t.isEmpty

-- The text as given, or nothing where only blanks were given.
def nonBlank (s : Option String) : Option String :=
  s.filter fun t => !isBlank t

-- The first `count` characters.
def truncate (count : Nat) (s : String) : String :=
  String.ofList (s.toList.take count)

theorem length_truncate_le (count : Nat) (s : String) : (truncate count s).length ≤ count := by
  simp only [truncate, String.length_ofList, List.length_take]
  exact Nat.min_le_left _ _

theorem toList_trim (s : String) : (trim s).toList = trimChars s.toList := by
  simp [trim]

theorem mem_of_mem_trimChars {cs : List Char} {c : Char} (h : c ∈ trimChars cs) : c ∈ cs := by
  have hfront : c ∈ (cs.dropWhile isBlankChar).reverse :=
    (List.dropWhile_sublist isBlankChar).subset (List.mem_reverse.mp h)
  exact (List.dropWhile_sublist isBlankChar).subset (List.mem_reverse.mp hfront)

theorem mem_of_mem_truncate {count : Nat} {s : String} {c : Char}
    (h : c ∈ (truncate count s).toList) : c ∈ s.toList := by
  simp only [truncate, String.toList_ofList] at h
  exact List.mem_of_mem_take h

end Unshare.Text
