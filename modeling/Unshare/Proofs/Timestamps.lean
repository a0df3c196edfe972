import Mathlib.Data.String.Basic
import Unshare.Proofs.Calendar
import Unshare.Proofs.Numerals

namespace Unshare

-- The decimal digits of this number, filled up with zeros in front to this width.
def Text.Decimal.AreDigitsIn (width : Nat) (digits : List Char) (n : Nat) : Prop :=
  digits.length = width ∧ AreDigitsOf digits n

namespace Time

-- Numbers written one after another, each in its width and with its mark behind it.
inductive Spells : List (Nat × Char) → List Nat → List Char → Prop
  | nil : Spells [] [] []
  | cons {width n : Nat} {mark : Char} {layout : List (Nat × Char)} {numbers : List Nat}
      {digits rest : List Char} :
      Text.Decimal.AreDigitsIn width digits n → Spells layout numbers rest →
      Spells ((width, mark) :: layout) (n :: numbers) (digits ++ mark :: rest)

-- What a calendar and a clock show.
structure Reading where
  year : Nat
  month : Nat
  day : Nat
  hour : Nat
  minute : Nat
  second : Nat
  milli : Nat

namespace Reading

structure IsProper (r : Reading) : Prop where
  date : IsDate r.year r.month r.day
  hour : r.hour < 24
  minute : r.minute < 60
  second : r.second < 60
  milli : r.milli < 1000

def numbers (r : Reading) : List Nat :=
  [r.year, r.month, r.day, r.hour, r.minute, r.second, r.milli]

-- The milliseconds from the start of 1970.
def millis (r : Reading) : Int :=
  (((dayNumber r.year r.month r.day * 24 + r.hour) * 60 + r.minute) * 60 + r.second) * 1000 +
    r.milli

-- The reading on a date, so many milliseconds after its start.
def ofClock (year month day clock : Nat) : Reading :=
  ⟨year, month, day, clock / 3600000, clock / 60000 % 60, clock / 1000 % 60, clock % 1000⟩

end Reading

-- The form of RFC 3339 for an instant in UTC with three fractional digits.
def instantLayout : List (Nat × Char) :=
  [(4, '-'), (2, '-'), (2, 'T'), (2, ':'), (2, ':'), (2, '.'), (3, 'Z')]

-- The text stands for the instant that comes these milliseconds after the start of 1970.
def Denotes (text : String) (millis : Int) : Prop :=
  ∃ r : Reading, r.IsProper ∧ Spells instantLayout r.numbers text.toList ∧ r.millis = millis

-- The text stands for this instant, given in microseconds, rounded down to the millisecond, and for
-- no other.
def RoundsDown (text : String) (micros : Int) : Prop :=
  ∀ millis : Int, Denotes text millis ↔ 1000 * millis ≤ micros ∧ micros < 1000 * millis + 1000

-- An instant, in microseconds from the start of 1970, of the years 0000 to 9999.
def HasFourDigitYear (micros : Int) : Prop :=
  dayNumber 0 1 1 * microsPerDay ≤ micros ∧ micros < dayNumber 10000 1 1 * microsPerDay

end Time

theorem Text.append_lt_append_iff {a b c d : List Char} (h : a.length = b.length) :
    a ++ c < b ++ d ↔ a < b ∨ a = b ∧ c < d := by
  induction a generalizing b with
  | nil =>
    obtain rfl := List.length_eq_zero_iff.mp h.symm
    simp
  | cons x a ih =>
    obtain ⟨y, b, rfl⟩ := List.exists_cons_of_length_eq_add_one h.symm
    have hrest := ih (Nat.succ.inj h)
    simp only [List.cons_append, List.cons_lt_cons_iff, hrest, List.cons.injEq]
    tauto

namespace Text.Decimal

variable {a b : List Char} {m n width : Nat}

theorem areDigitsIn_padded (hwidth : 0 < width) (h : n < 10 ^ width) :
    AreDigitsIn width (padded width n) n := by
  have hlength : (digits n).length ≤ width :=
    (Nat.length_toDigits_le_iff (by decide) hwidth).mpr h
  have hne : digits n ≠ [] := Nat.toDigits_ne_nil
  refine ⟨?_, List.append_ne_nil_of_right_ne_nil _ hne, ?_, ?_⟩
  · rw [padded, List.length_append, List.length_replicate, Nat.sub_add_cancel hlength]
  · intro c hc
    rcases List.mem_append.mp hc with hzero | hdigit
    · rw [List.eq_of_mem_replicate hzero]
      rfl
    · exact Nat.isDigit_of_mem_toDigits (by decide) (by decide) hdigit
  · rw [padded, Nat.ofDigitChars_append, Nat.ofDigitChars_replicate_zero, Nat.mul_zero]
    exact Nat.ofDigitChars_ten_toDigits

section

variable {c d : Char} (hc : c.isDigit = true) (hd : d.isDigit = true)

include hc hd

theorem append_digit_lt_iff : 10 * m + (c.toNat - '0'.toNat) < 10 * n + (d.toNat - '0'.toNat) ↔
    m < n ∨ m = n ∧ c < d := by
  have hlt : c < d ↔ c.toNat < d.toNat := Char.lt_def.trans UInt32.lt_iff_toNat_lt
  obtain ⟨hclow, hchigh⟩ := Char.isDigit_iff_toNat.mp hc
  obtain ⟨hdlow, hdhigh⟩ := Char.isDigit_iff_toNat.mp hd
  have hnine : '9'.toNat = '0'.toNat + 9 := rfl
  rw [hlt]
  omega

theorem append_digit_inj : 10 * m + (c.toNat - '0'.toNat) = 10 * n + (d.toNat - '0'.toNat) ↔
    m = n ∧ c = d := by
  obtain ⟨hclow, hchigh⟩ := Char.isDigit_iff_toNat.mp hc
  obtain ⟨hdlow, hdhigh⟩ := Char.isDigit_iff_toNat.mp hd
  have hnine : '9'.toNat = '0'.toNat + 9 := rfl
  rw [← Char.toNat_inj]
  omega

end

-- Of two numerals of one width, the first place in which they differ tells the smaller number.
theorem ofDigitChars_lt_iff (hlength : a.length = b.length) (ha : ∀ c ∈ a, c.isDigit = true)
    (hb : ∀ c ∈ b, c.isDigit = true) :
    Nat.ofDigitChars 10 a m < Nat.ofDigitChars 10 b n ↔ m < n ∨ m = n ∧ a < b := by
  induction a generalizing b m n with
  | nil =>
    obtain rfl := List.length_eq_zero_iff.mp hlength.symm
    simp
  | cons c a ih =>
    obtain ⟨d, b, rfl⟩ := List.exists_cons_of_length_eq_add_one hlength.symm
    obtain ⟨hc, ha⟩ := List.forall_mem_cons.mp ha
    obtain ⟨hd, hb⟩ := List.forall_mem_cons.mp hb
    rw [Nat.ofDigitChars_cons, Nat.ofDigitChars_cons, ih (Nat.succ.inj hlength) ha hb,
      append_digit_lt_iff hc hd, append_digit_inj hc hd, List.cons_lt_cons_iff]
    tauto

theorem ofDigitChars_inj (hlength : a.length = b.length) (ha : ∀ c ∈ a, c.isDigit = true)
    (hb : ∀ c ∈ b, c.isDigit = true) :
    Nat.ofDigitChars 10 a m = Nat.ofDigitChars 10 b n ↔ m = n ∧ a = b := by
  induction a generalizing b m n with
  | nil =>
    obtain rfl := List.length_eq_zero_iff.mp hlength.symm
    simp
  | cons c a ih =>
    obtain ⟨d, b, rfl⟩ := List.exists_cons_of_length_eq_add_one hlength.symm
    obtain ⟨hc, ha⟩ := List.forall_mem_cons.mp ha
    obtain ⟨hd, hb⟩ := List.forall_mem_cons.mp hb
    rw [Nat.ofDigitChars_cons, Nat.ofDigitChars_cons, ih (Nat.succ.inj hlength) ha hb,
      append_digit_inj hc hd, List.cons.injEq, and_assoc]

section

variable (h : AreDigitsIn width a m) (h' : AreDigitsIn width b n)

include h h'

theorem lt_iff_of_areDigitsIn : a < b ↔ m < n := by
  obtain ⟨hlength, -, ha, rfl⟩ := h
  obtain ⟨hlength', -, hb, rfl⟩ := h'
  rw [ofDigitChars_lt_iff (hlength.trans hlength'.symm) ha hb]
  simp

theorem eq_iff_of_areDigitsIn : a = b ↔ m = n := by
  obtain ⟨hlength, -, ha, rfl⟩ := h
  obtain ⟨hlength', -, hb, rfl⟩ := h'
  rw [ofDigitChars_inj (hlength.trans hlength'.symm) ha hb, and_iff_right rfl]

end

end Text.Decimal

namespace Time

-- Texts of one layout are in order as their numbers are.
theorem lt_iff_of_spells {layout : List (Nat × Char)} {numbers numbers' : List Nat}
    {text text' : List Char} (h : Spells layout numbers text) (h' : Spells layout numbers' text') :
    text < text' ↔ numbers < numbers' := by
  induction h generalizing numbers' text' with
  | nil =>
    cases h'
    simp
  | cons hdigits _ ih =>
    cases h' with
    | cons hdigits' hrest' =>
      rw [Text.append_lt_append_iff (hdigits.1.trans hdigits'.1.symm), List.cons_lt_cons_self,
        ih hrest', List.cons_lt_cons_iff, Text.Decimal.lt_iff_of_areDigitsIn hdigits hdigits',
        Text.Decimal.eq_iff_of_areDigitsIn hdigits hdigits']

-- Days are in order as their dates are, and a clock never shows more than its day has.
theorem numbers_lt_iff {r s : Reading} (hr : r.IsProper) (hs : s.IsProper) :
    r.numbers < s.numbers ↔ r.millis < s.millis := by
  have hbefore := dayNumber_lt_iff hr.date hs.date
  have hafter := dayNumber_lt_iff hs.date hr.date
  obtain ⟨-, hhour, hminute, hsecond, hmilli⟩ := hr
  obtain ⟨-, hhour', hminute', hsecond', hmilli'⟩ := hs
  simp only [Reading.numbers, List.cons_lt_cons_iff, List.not_lt_nil, and_false, or_false]
  unfold Reading.millis
  generalize dayNumber r.year r.month r.day = day at *
  generalize dayNumber s.year s.month s.day = day' at *
  omega

theorem lt_iff_of_denotes {s t : String} {m n : Int} (hs : Denotes s m) (ht : Denotes t n) :
    s < t ↔ m < n := by
  obtain ⟨r, hr, hspells, rfl⟩ := hs
  obtain ⟨r', hr', hspells', rfl⟩ := ht
  rw [String.lt_iff_toList_lt, lt_iff_of_spells hspells hspells', numbers_lt_iff hr hr']

theorem spells_clockText {clock : Nat} (h : clock < 86400000) :
    Spells [(2, ':'), (2, ':'), (2, '.'), (3, 'Z')]
      [clock / 3600000, clock / 60000 % 60, clock / 1000 % 60, clock % 1000]
      (clockText clock ++ ['Z']) := by
  have hhour := Text.Decimal.areDigitsIn_padded (show 0 < 2 by decide)
    (show clock / 3600000 < 10 ^ 2 by omega)
  have hminute := Text.Decimal.areDigitsIn_padded (show 0 < 2 by decide)
    (show clock / 60000 % 60 < 10 ^ 2 by omega)
  have hsecond := Text.Decimal.areDigitsIn_padded (show 0 < 2 by decide)
    (show clock / 1000 % 60 < 10 ^ 2 by omega)
  have hmilli := Text.Decimal.areDigitsIn_padded (show 0 < 3 by decide)
    (show clock % 1000 < 10 ^ 3 by omega)
  simpa only [clockText, List.append_assoc, List.cons_append] using
    Spells.cons hhour (.cons hminute (.cons hsecond (.cons hmilli .nil)))

theorem spells_dateText {year month day : Nat} {layout : List (Nat × Char)} {numbers : List Nat}
    {rest : List Char} (hyear : year ≤ 9999) (h : IsDate year month day)
    (hrest : Spells layout numbers rest) :
    Spells ((4, '-') :: (2, '-') :: (2, 'T') :: layout) (year :: month :: day :: numbers)
      (dateText ⟨year, month, day⟩ ++ 'T' :: rest) := by
  obtain ⟨⟨-, hmonth⟩, -, hday⟩ := h
  have hlength := daysInMonth_le year month
  have hyears := Text.Decimal.areDigitsIn_padded (show 0 < 4 by decide)
    (show year < 10 ^ 4 by omega)
  have hmonths := Text.Decimal.areDigitsIn_padded (show 0 < 2 by decide)
    (show month < 10 ^ 2 by omega)
  have hdays := Text.Decimal.areDigitsIn_padded (show 0 < 2 by decide)
    (show day < 10 ^ 2 by omega)
  have hplain : yearText year = Text.Decimal.padded 4 year := if_pos hyear
  simpa only [dateText, hplain, List.append_assoc, List.cons_append] using
    Spells.cons hyears (.cons hmonths (.cons hdays hrest))

section

variable {year month day clock : Nat}

theorem Reading.isProper_ofClock (h : IsDate year month day) (hclock : clock < 86400000) :
    (ofClock year month day clock).IsProper where
  date := h
  hour := Nat.div_lt_of_lt_mul hclock
  minute := Nat.mod_lt _ (by decide)
  second := Nat.mod_lt _ (by decide)
  milli := Nat.mod_lt _ (by decide)

theorem Reading.millis_ofClock (year month day clock : Nat) :
    (ofClock year month day clock).millis = dayNumber year month day * 86400000 + clock := by
  simp only [ofClock, millis]
  omega

-- Before 1970 too, the instant is rounded down, to the day and to the millisecond of the day.
theorem denotes_of_date {micros : Int} (hyear : year ≤ 9999) (h : IsDate year month day)
    (hdate : dateOfDay (micros / microsPerDay) = ⟨year, month, day⟩)
    (hnumber : dayNumber year month day = micros / microsPerDay) :
    Denotes (instantText micros) (micros / 1000) := by
  obtain ⟨clock, hclock⟩ : ∃ clock : Nat, micros % microsPerDay / 1000 = clock :=
    Int.eq_ofNat_of_zero_le (by unfold microsPerDay; omega)
  have hlate : clock < 86400000 := by
    unfold microsPerDay at hclock
    omega
  have htext : (instantText micros).toList =
      dateText ⟨year, month, day⟩ ++ 'T' :: (clockText clock ++ ['Z']) := by
    simp only [instantText, hdate, hclock, String.toList_ofList, Int.toNat_natCast,
      List.append_assoc, List.cons_append]
  refine ⟨.ofClock year month day clock, Reading.isProper_ofClock h hlate, ?_, ?_⟩
  · rw [htext]
    exact spells_dateText hyear h (spells_clockText hlate)
  · rw [Reading.millis_ofClock, hnumber]
    unfold microsPerDay at hclock ⊢
    omega

end

theorem hasFourDigitYear_iff {micros : Int} :
    HasFourDigitYear micros ↔ -62167219200000000 ≤ micros ∧ micros < 253402300800000000 := by
  have hend := daysBeforeYear_add 10000
  have hstart : daysBeforeYear 0 = 0 := rfl
  have hmonth : ∀ year, daysBeforeMonth year 1 = 0 := fun _ => rfl
  rw [HasFourDigitYear, dayNumber, dayNumber, daysBeforeYear_epoch, hstart, hmonth, hmonth]
  unfold microsPerDay
  omega

theorem denotes_instantText {micros : Int} (h : HasFourDigitYear micros) :
    Denotes (instantText micros) (micros / 1000) := by
  have hfirst : dayNumber 0 1 1 ≤ micros / microsPerDay :=
    (Int.le_ediv_iff_mul_le (by decide)).mpr h.1
  have hlast : micros / microsPerDay < dayNumber 10000 1 1 :=
    Int.ediv_lt_of_lt_mul (by decide) h.2
  obtain ⟨year, month, day, hdate, hproper, hnumber⟩ := exists_date_of_day hfirst
  have hyear : year ≤ 9999 := by
    have hnewYear : IsDate 10000 1 1 := ⟨by decide, by decide, by decide⟩
    rw [← hnumber, dayNumber_lt_iff hproper hnewYear] at hlast
    obtain ⟨⟨hmonth, -⟩, hday, -⟩ := hproper
    omega
  exact denotes_of_date hyear hproper hdate hnumber

theorem instantText_lt_iff {a b : Int} (ha : HasFourDigitYear a) (hb : HasFourDigitYear b) :
    instantText a < instantText b ↔ a / 1000 < b / 1000 :=
  lt_iff_of_denotes (denotes_instantText ha) (denotes_instantText hb)

theorem roundsDown_instantText {micros : Int} (h : HasFourDigitYear micros) :
    RoundsDown (instantText micros) micros := by
  have htext := denotes_instantText h
  intro millis
  have hsame : Denotes (instantText micros) millis ↔ micros / 1000 = millis := by
    constructor
    · intro hdenotes
      have hbefore := (lt_iff_of_denotes htext hdenotes).not.mp (lt_irrefl _)
      have hafter := (lt_iff_of_denotes hdenotes htext).not.mp (lt_irrefl _)
      omega
    · rintro rfl
      exact htext
  rw [hsame]
  omega

end Time

end Unshare
