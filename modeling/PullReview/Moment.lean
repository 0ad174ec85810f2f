/-!
# Moments

A moment is a number of whole seconds since the start of 1970, written as date and time of the
Gregorian calendar.

| here | there |
| --- | --- |
| `Moment` | `utcnow` (models:23-24), in whole seconds |
| `Moment.text` | `datetime.isoformat` of a moment without a zone |
-/

namespace PullReview

/-- Seconds since 1970-01-01T00:00:00Z. -/
abbrev Moment := Int

namespace Moment

def secondsPerDay : Int := 86400

/-- Year, month and day of the day with the given number, day 0 being 1970-01-01. Years are counted
from March, so that a leap day comes last; an era is 400 years. -/
def civil (day : Int) : Int × Int × Int :=
  let shifted := day + 719468
  let era := shifted.fdiv 146097
  let dayOfEra := shifted - era * 146097
  let yearOfEra := (dayOfEra - dayOfEra / 1460 + dayOfEra / 36524 - dayOfEra / 146096) / 365
  let dayOfYear := dayOfEra - (365 * yearOfEra + yearOfEra / 4 - yearOfEra / 100)
  let monthFromMarch := (5 * dayOfYear + 2) / 153
  let day := dayOfYear - (153 * monthFromMarch + 2) / 5 + 1
  let month := if monthFromMarch < 10 then monthFromMarch + 3 else monthFromMarch - 9
  let year := yearOfEra + era * 400 + (if month ≤ 2 then 1 else 0)
  (year, month, day)

/-- A number with zeros in front up to a width. -/
def padded (width : Nat) (n : Int) : String :=
  let digits := (toString n).toList
  String.ofList (List.replicate (width - digits.length) '0' ++ digits)

/-- The moment as date and time without a zone. -/
def text (t : Moment) : String :=
  let day := Int.fdiv t secondsPerDay
  let second := t - day * secondsPerDay
  let (year, month, dayOfMonth) := civil day
  s!"{padded 4 year}-{padded 2 month}-{padded 2 dayOfMonth}T{padded 2 (second / 3600)}:" ++
    s!"{padded 2 (second / 60 % 60)}:{padded 2 (second % 60)}"

/-- The moment as date and time with the zone of universal time. -/
def zonedText (t : Moment) : String := t.text ++ "+00:00"

end Moment

end PullReview
