namespace Verdict

-- Seconds since the start of 1970 at offset zero, nanoseconds within the second, and the offset in
-- seconds. Nanoseconds reach a second or more only inside a leap second, which is written as :60.
structure Moment where
  seconds : Int
  nanos : Nat
  offset : Int
  deriving DecidableEq, Repr, Inhabited

namespace Moment

-- The order of time; the offset does not matter.
def compare (a b : Moment) : Ordering :=
  (Ord.compare a.seconds b.seconds).then (Ord.compare a.nanos b.nanos)

structure Date where
  year : Int
  month : Int
  day : Int
  deriving DecidableEq, Repr

-- The date so many days after the first of January 1970. Years are counted from March within eras
-- of 400 years, so that the leap day comes last.
def Date.ofDays (days : Int) : Date :=
  let shifted := days + 719468
  let era := shifted / 146097
  let dayOfEra := shifted % 146097
  let yearOfEra := (dayOfEra - dayOfEra / 1460 + dayOfEra / 36524 - dayOfEra / 146096) / 365
  let dayOfYear := dayOfEra - (365 * yearOfEra + yearOfEra / 4 - yearOfEra / 100)
  let march := (5 * dayOfYear + 2) / 153
  let month := if march < 10 then march + 3 else march - 9
  let year := yearOfEra + era * 400 + (if month ≤ 2 then 1 else 0)
  ⟨year, month, dayOfYear - (153 * march + 2) / 5 + 1⟩

-- A number with zeros in front up to a width.
def padded (width n : Nat) : String :=
  let digits := Nat.toDigits 10 n
  String.ofList (List.replicate (width - digits.length) '0' ++ digits)

-- Four digits, and a sign for years outside them.
def yearText (year : Int) : String :=
  if 0 ≤ year ∧ year ≤ 9999 then padded 4 year.toNat
  else (if year < 0 then "-" else "+") ++ padded 4 year.natAbs

-- Three, six or nine decimals.
def fractionText (nanos : Nat) : String :=
  if nanos = 0 then ""
  else if nanos % 1000000 = 0 then "." ++ padded 3 (nanos / 1000000)
  else if nanos % 1000 = 0 then "." ++ padded 6 (nanos / 1000)
  else "." ++ padded 9 nanos

-- Date and time of day at the moment's own offset.
def localText (m : Moment) : String :=
  let here := m.seconds + m.offset
  let date := Date.ofDays (here / 86400)
  let clock := (here % 86400).toNat
  let leap := if m.nanos ≥ 1000000000 then 1 else 0
  yearText date.year ++ "-" ++ padded 2 date.month.toNat ++ "-" ++ padded 2 date.day.toNat ++ "T" ++
    padded 2 (clock / 3600) ++ ":" ++ padded 2 (clock / 60 % 60) ++ ":" ++
    padded 2 (clock % 60 + leap) ++ fractionText (m.nanos - leap * 1000000000)

def offsetSign (m : Moment) : String := if m.offset < 0 then "-" else "+"

-- The moment as it is shown: the offset is rounded to minutes, half a minute going up. Irreducible, as
-- checking equations about shown values would unfold the calendar.
@[irreducible] def text (m : Moment) : String :=
  let minutes := (m.offset.natAbs + 30) / 60
  m.localText ++ m.offsetSign ++ padded 2 (minutes / 60) ++ ":" ++ padded 2 (minutes % 60)

-- The moment with its offset to the second where that is not whole minutes.
def exactText (m : Moment) : String :=
  let seconds := m.offset.natAbs
  m.localText ++ m.offsetSign ++ padded 2 (seconds / 3600) ++ ":" ++ padded 2 (seconds / 60 % 60) ++
    (if seconds % 60 = 0 then "" else ":" ++ padded 2 (seconds % 60))

end Moment

end Verdict
