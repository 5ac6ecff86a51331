import Autotext.Calendar.Instant

/-!
# Relative phrases

How far an instant lies from a reference instant, in words. The signed time between them
is truncated to whole seconds. Under 45 seconds it is `just now`; under an hour it is
minutes rounded to the nearest (so up to `60 minutes`); then whole hours, whole days,
months of 30 days and years of 365 days. A count of one is singular. An instant after the
reference is `in N units`, one before it `N units ago`.

- `relativePhrase`: the phrase for an instant and a reference.
-/

namespace Autotext.Calendar

/-- A count and its unit, made plural unless the count is one. -/
def countWords (count : Nat) (unit : String) : String :=
  toString count ++ " " ++ unit ++ (if count = 1 then "" else "s")

/-- The count and unit of a distance in seconds of at least 45. -/
def distanceWords (distance : Nat) : String :=
  if distance < 3600 then countWords ((distance + 30) / 60) "minute"
  else if distance < 86400 then countWords (distance / 3600) "hour"
  else if distance < 30 * 86400 then countWords (distance / 86400) "day"
  else if distance < 365 * 86400 then countWords (distance / (30 * 86400)) "month"
  else countWords (distance / (365 * 86400)) "year"

/-- How far `instant` lies from `reference`, in words. -/
def relativePhrase (instant reference : Instant) : String :=
  let seconds := wholeSeconds (reference.since instant)
  if seconds.natAbs < 45 then "just now"
  else if seconds < 0 then "in " ++ distanceWords seconds.natAbs
  else distanceWords seconds.natAbs ++ " ago"

end Autotext.Calendar
