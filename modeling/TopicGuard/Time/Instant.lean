/-!
Instants.

An instant is a whole number of seconds before or after the start of 1970, within the years that dates are
kept for. For a reading of a clock it stands for the timestamp: the fraction of the second that has begun is
dropped before anything is compared, so a bound of a window lasts for the whole of its second. `Instant.render`
writes an instant as a calendar date and a time of day.
-/

set_option autoImplicit false

namespace TopicGuard

/-- A second in time, counted from the start of 1970. -/
structure Instant where
  seconds : Int
  least_le : -8334601228800 ≤ seconds
  le_greatest : seconds ≤ 8210266876799
deriving DecidableEq

namespace Instant

/-- The start of 1970. -/
def epoch : Instant := ⟨0, by decide, by decide⟩

/-- The instant so many seconds after the epoch, if dates reach that far. -/
def ofSeconds? (s : Int) : Option Instant :=
  if h : -8334601228800 ≤ s ∧ s ≤ 8210266876799 then some ⟨s, h.1, h.2⟩ else none

@[simp] theorem ofSeconds?_seconds (t : Instant) : ofSeconds? t.seconds = some t := by
  simp [ofSeconds?, t.least_le, t.le_greatest]

/-! ## Calendar -/

/-- Year, month and day of a day counted from the epoch. Years are counted from March within eras of four
hundred years, so that the leap day comes last. -/
def civil (day : Int) : Int × Nat × Nat :=
  let shifted := day + 719468
  let era := shifted.fdiv 146097
  let dayOfEra := (shifted.fmod 146097).toNat
  let yearOfEra := (dayOfEra - dayOfEra / 1460 + dayOfEra / 36524 - dayOfEra / 146096) / 365
  let dayOfYear := dayOfEra - (365 * yearOfEra + yearOfEra / 4 - yearOfEra / 100)
  let marchMonth := (5 * dayOfYear + 2) / 153
  let dayOfMonth := dayOfYear - (153 * marchMonth + 2) / 5 + 1
  let month := if marchMonth < 10 then marchMonth + 3 else marchMonth - 9
  let year := (yearOfEra : Int) + era * 400
  (if month ≤ 2 then year + 1 else year, month, dayOfMonth)

/-- A number with at least so many digits. -/
def padded (width n : Nat) : String :=
  let digits := toString n
  String.ofList (List.replicate (width - digits.length) '0') ++ digits

/-- A year: four digits, or a sign and at least four digits outside the years 0 to 9999. -/
def renderYear (year : Int) : String :=
  if 0 ≤ year ∧ year ≤ 9999 then padded 4 year.toNat
  else (if year < 0 then "-" else "+") ++ padded 4 year.natAbs

/-- Date and time of day in universal time. -/
def render (t : Instant) : String :=
  let (year, month, day) := civil (t.seconds.fdiv 86400)
  let second := (t.seconds.fmod 86400).toNat
  renderYear year ++ "-" ++ padded 2 month ++ "-" ++ padded 2 day ++ "T" ++ padded 2 (second / 3600)
    ++ ":" ++ padded 2 (second / 60 % 60) ++ ":" ++ padded 2 (second % 60) ++ "Z"

end Instant

/-- Where the present time comes from. -/
inductive Clock where
  /-- The clock of the machine. -/
  | system
  /-- A clock that stands still. -/
  | fixed (t : Instant)
deriving DecidableEq

namespace Clock

/-- The present time, given that of the machine. -/
def now (c : Clock) (machine : Instant) : Instant :=
  match c with
  | .system => machine
  | .fixed t => t

/-- A clock as a diagnostic shows it. -/
def describe : Clock → String
  | .system => "SystemClock"
  | .fixed t => "FixedClock(" ++ t.render ++ ")"

end Clock

end TopicGuard
