import ThreadHost.Decimal.Binary
/-!
# Calendar and time of day

Seconds are counted as whole microseconds; days are counted from the first of January 2024.
-/

namespace ThreadHost.Calendar

/-- The microseconds in a number of seconds. Whole seconds are exact; the rest is multiplied as a
double and rounded, a half to the even neighbour. -/
def microseconds (seconds : Float) : Int :=
  match Decimal.Binary.ofFloat seconds with
  | .finite negative significand exponent _ =>
    let (numerator, denominator) := Decimal.ratio significand exponent
    let rest := Decimal.nearest false (numerator % denominator) denominator * 1000000
    let rounded := match Decimal.Binary.ofFloat rest with
      | .finite _ significand exponent _ =>
        let (numerator, denominator) := Decimal.ratio significand exponent
        Decimal.roundQuotient numerator denominator
      | _ => 0
    let magnitude := numerator / denominator * 1000000 + rounded
    if negative then -(magnitude : Int) else magnitude
  | _ => 0

/-- The microseconds of a day. -/
def dayLength : Int := 86400 * 1000000

/-- A time of day. -/
structure TimeOfDay where
  hour : Nat
  minute : Nat
  second : Nat
  microsecond : Nat
  deriving Repr, DecidableEq

/-- The time of day so many microseconds after a midnight. -/
def timeOfDay (microseconds : Int) : TimeOfDay :=
  let rest := (microseconds % dayLength).toNat
  let seconds := rest / 1000000
  ⟨seconds / 3600, seconds / 60 % 60, seconds % 60, rest % 1000000⟩

/-- A day of the calendar. -/
structure Date where
  year : Int
  month : Nat
  day : Nat
  deriving Repr, DecidableEq

/-- How many days lie between the first of March of the year 0 and the first of January 2024. -/
def epochDays : Int := 739191

/-- The day so many days after the first of January 2024. Years are taken to begin in March, so
that a leap day is the last day of its year, and are counted in cycles of four centuries. -/
def date (days : Int) : Date :=
  let count := days + epochDays
  let cycle := count / 146097
  let inCycle := (count % 146097).toNat
  let year := (inCycle - inCycle / 1460 + inCycle / 36524 - inCycle / 146096) / 365
  let inYear := inCycle - (365 * year + year / 4 - year / 100)
  -- Five months from March have 153 days, and so have the next five.
  let month := (5 * inYear + 2) / 153
  let day := inYear - (153 * month + 2) / 5 + 1
  if month < 10 then ⟨year + cycle * 400, month + 3, day⟩
  else ⟨year + cycle * 400 + 1, month - 9, day⟩

/-- A number with at least so many digits. -/
def padded (width number : Nat) : String :=
  let digits := toString number
  String.ofList (List.replicate (width - digits.length) '0') ++ digits

/-- A date and time without separators but one underscore. -/
def stamp (microseconds : Int) : String :=
  let date := date (microseconds / dayLength)
  let time := timeOfDay microseconds
  toString date.year ++ padded 2 date.month ++ padded 2 date.day ++ "_" ++
    padded 2 time.hour ++ padded 2 time.minute ++ padded 2 time.second

/-- A time of day with milliseconds; what is left of a millisecond is cut off. -/
def clockText (microseconds : Int) : String :=
  let time := timeOfDay microseconds
  padded 2 time.hour ++ ":" ++ padded 2 time.minute ++ ":" ++ padded 2 time.second ++ "." ++
    padded 3 (time.microsecond / 1000)

/-! ## Moments -/

/-- Why there is no such moment. -/
inductive Absence where
  /-- The number of seconds is no number. -/
  | notANumber
  | infinite
  | tooManyDays (days : Int)
  /-- The year is not one from 1 to 9999. -/
  | outOfRange
  deriving Repr, DecidableEq

/-- The wording of an absence. -/
def Absence.message : Absence → String
  | .notANumber => "cannot convert float NaN to integer"
  | .infinite => "cannot convert float infinity to integer"
  | .tooManyDays days => s!"days={days}; must have magnitude <= 999999999"
  | .outOfRange => "date value out of range"

/-- A moment, in microseconds after the first of January 2024. -/
def moment (microseconds : Int) : Except Absence Int :=
  let days := microseconds / dayLength
  let year := (date days).year
  if 999999999 < days.natAbs then .error (.tooManyDays days)
  else if year < 1 ∨ 9999 < year then .error .outOfRange
  else .ok microseconds

/-- A moment, in seconds after the first of January 2024. -/
def momentOfSeconds (seconds : Float) : Except Absence Int :=
  match Decimal.Binary.ofFloat seconds with
  | .notANumber => .error .notANumber
  | .infinite _ => .error .infinite
  | .finite .. => moment (microseconds seconds)

end ThreadHost.Calendar
