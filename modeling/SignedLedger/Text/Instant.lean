-- Points in time as seconds and nanoseconds since 1970, and their RFC 3339 text.
-- A nanosecond count from 10^9 on stands inside a leap second.
namespace SignedLedger

structure Instant where
  seconds : Int
  nanos : Nat
  deriving DecidableEq

namespace Instant

structure Date where
  year : Int
  month : Nat
  day : Nat
  deriving DecidableEq

-- Days are counted from the first of March of year 0, so that the leap day comes
-- last in its year; an era has 400 years.
def dateOfDays (days : Int) : Date :=
  let shifted := days + 719468
  let era := shifted.fdiv 146097
  let dayOfEra := (shifted.fmod 146097).toNat
  let yearOfEra := (dayOfEra - dayOfEra / 1460 + dayOfEra / 36524 - dayOfEra / 146096) / 365
  let dayOfYear := dayOfEra - (365 * yearOfEra + yearOfEra / 4 - yearOfEra / 100)
  let monthIndex := (5 * dayOfYear + 2) / 153
  let day := dayOfYear - (153 * monthIndex + 2) / 5 + 1
  let month := if monthIndex < 10 then monthIndex + 3 else monthIndex - 9
  let year := (yearOfEra : Int) + era * 400 + (if month ≤ 2 then 1 else 0)
  ⟨year, month, day⟩

def padded (width n : Nat) : String :=
  let ds := Nat.toDigits 10 n
  String.ofList (List.replicate (width - ds.length) '0' ++ ds)

def yearText (year : Int) : String :=
  if 0 ≤ year ∧ year ≤ 9999 then padded 4 year.toNat
  else if year < 0 then "-" ++ padded 4 year.natAbs
  else "+" ++ padded 4 year.natAbs

def fractionText (nanos : Nat) : String :=
  if nanos = 0 then ""
  else if nanos % 1000000 = 0 then "." ++ padded 3 (nanos / 1000000)
  else if nanos % 1000 = 0 then "." ++ padded 6 (nanos / 1000)
  else "." ++ padded 9 nanos

def textWith (zone : String) (t : Instant) : String :=
  let date := dateOfDays (t.seconds.fdiv 86400)
  let rest := (t.seconds.fmod 86400).toNat
  let leap := t.nanos / 1000000000
  yearText date.year ++ "-" ++ padded 2 date.month ++ "-" ++ padded 2 date.day ++ "T" ++
    padded 2 (rest / 3600) ++ ":" ++ padded 2 (rest / 60 % 60) ++ ":" ++
    padded 2 (rest % 60 + leap) ++ fractionText (t.nanos % 1000000000) ++ zone

def text (t : Instant) : String := t.textWith "Z"

end Instant
end SignedLedger
