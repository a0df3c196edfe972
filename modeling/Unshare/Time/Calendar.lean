import Unshare.Text.Decimal

namespace Unshare.Time

structure Date where
  year : Int
  month : Nat
  day : Nat
deriving DecidableEq, Repr

-- Four hundred years have this many days, whichever year they start in.
def daysPerEra : Int := 146097

-- Days from 1 March of year 0 to 1 January 1970.
def epochShift : Int := 719468

-- The year within four hundred years, counted from 1 March, in which a day falls.
def yearOfEra (day : Int) : Int :=
  (day - day / 1460 + day / 36524 - day / 146096) / 365

-- The first day of a year counted from 1 March.
def startOfYear (year : Int) : Int :=
  365 * year + year / 4 - year / 100

-- The date of a day: eras are counted from 1 March, so that a leap day comes last in its year, and
-- five months always have 153 days.
def dateOfDay (count : Int) : Date :=
  let shifted := count + epochShift
  let era := shifted / daysPerEra
  let day := shifted % daysPerEra
  let year := yearOfEra day
  let dayOfYear := day - startOfYear year
  let month := (5 * dayOfYear + 2) / 153
  let dayOfMonth := dayOfYear - (153 * month + 2) / 5 + 1
  let civilMonth := if month < 10 then month + 3 else month - 9
  ⟨year + era * 400 + (if civilMonth ≤ 2 then 1 else 0), civilMonth.toNat, dayOfMonth.toNat⟩

-- Years of four digits stand as they are; others have a sign.
def yearText (year : Int) : List Char :=
  match year with
  | .ofNat n => if n ≤ 9999 then Text.Decimal.padded 4 n else '+' :: Text.Decimal.padded 4 n
  | .negSucc n => '-' :: Text.Decimal.padded 4 (n + 1)

def dateText (d : Date) : List Char :=
  yearText d.year ++ '-' :: Text.Decimal.padded 2 d.month ++ '-' :: Text.Decimal.padded 2 d.day

def microsPerDay : Int := 86400000000

-- The time of day, given in milliseconds.
def clockText (millis : Nat) : List Char :=
  Text.Decimal.padded 2 (millis / 3600000) ++ ':' ::
    Text.Decimal.padded 2 (millis / 60000 % 60) ++ ':' ::
      Text.Decimal.padded 2 (millis / 1000 % 60) ++ '.' ::
        Text.Decimal.padded 3 (millis % 1000)

-- The text of an instant given in microseconds from the start of 1970.
def instantText (micros : Int) : String :=
  let day := micros / microsPerDay
  let millis := (micros % microsPerDay / 1000).toNat
  String.ofList (dateText (dateOfDay day) ++ 'T' :: clockText millis ++ ['Z'])

end Unshare.Time
