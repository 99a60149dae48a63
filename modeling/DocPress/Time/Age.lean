import DocPress.Time.Instant

/-!
# Ages in words

* `describe` — how long ago a moment was, as a whole number of the greatest unit that fits.
* `age` — the same for two instants.

Specification: section 4.2 (Relative Time Formatter), helper `relativeTime`.
-/

namespace DocPress.Time

/-- A unit of age: its name and its length in seconds. -/
structure AgeUnit where
  name : String
  seconds : Nat
  deriving DecidableEq, Repr

/-- The units of age, the greatest first. -/
def ageUnits : List AgeUnit :=
  [⟨"day", 86400⟩, ⟨"hour", 3600⟩, ⟨"minute", 60⟩, ⟨"second", 1⟩]

/-- A count of a unit in words. -/
def countText (count : Nat) (unit : AgeUnit) : String :=
  if count = 1 then "one " ++ unit.name ++ " ago"
  else toString count ++ " " ++ unit.name ++ "s ago"

/-- An age of so many nanoseconds in words; less than a second, or none at all, is "just now". -/
def describe (nanos : Int) : String :=
  let seconds := nanos / nanosPerSecond
  match ageUnits.find? fun unit => decide ((unit.seconds : Int) ≤ seconds) with
  | none => "just now"
  | some unit => countText (seconds.toNat / unit.seconds) unit

/-- How long before `now` the instant `t` was. -/
def age (t now : Instant) : String := describe (now.nanosSince t)

end DocPress.Time
