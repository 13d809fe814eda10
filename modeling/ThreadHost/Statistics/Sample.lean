import ThreadHost.Statistics.Root
/-!
# Figures of a sample

Mean and standard deviation are computed exactly and rounded once; the median and the
percentile are taken from the sorted sample.
-/

namespace ThreadHost.Statistics

/-- A finite double as a multiple of the least positive one; anything else counts as nothing. -/
def units (value : Float) : Int :=
  match Decimal.Binary.ofFloat value with
  | .finite negative significand exponent _ =>
    let magnitude : Nat := significand * Nat.pow 2 (exponent + 1074).toNat
    if negative then -(magnitude : Int) else magnitude
  | _ => 0

/-- The sum of what a measure gives for the members, exactly. -/
def total (measure : Float → Int) (sample : List Float) : Int :=
  sample.foldl (fun sum value => sum + measure value) 0

/-- The arithmetic mean. Members that are not finite outweigh all others. -/
def mean (sample : List Float) : Float :=
  match sample.filter (!·.isFinite) with
  | [] =>
    let sum := total units sample
    Decimal.nearest (sum < 0) sum.natAbs (sample.length * Nat.pow 2 1074)
  | unbounded => unbounded.foldl (· + ·) 0 / Float.ofNat sample.length

/-- The sum of the squared deviations from the mean, times the size of the sample. -/
def scaledDeviations (sample : List Float) : Nat :=
  let sum := total units sample
  let squares := total (fun value => units value * units value) sample
  ((sample.length : Int) * squares - sum * sum).toNat

/-- The standard deviation of a sample of at least two, all of them finite. -/
def deviation? (sample : List Float) : Option Float :=
  if sample.all Float.isFinite then
    some (nearestRoot (scaledDeviations sample)
      (sample.length * (sample.length - 1) * Nat.pow 2 (2 * 1074)))
  else none

/-- A sample in ascending order. What is no number stays where it is, which is right as long as only
such members follow. -/
def sorted (sample : List Float) : List Float := sample.mergeSort fun left right => !(right < left)

/-- The member of a number in an ascending sample. -/
def member (ascending : List Float) (number : Nat) : Float := ascending.getD number 0

/-- The middle of an ascending sample: its middle member, or the mean of the two in the middle. -/
def median (ascending : List Float) : Float :=
  let half := ascending.length / 2
  if ascending.length % 2 = 1 then member ascending half
  else (member ascending (half - 1) + member ascending half) / 2

/-- The first member that is kept when each later one that is preferred to it takes its place. -/
def extreme (preferred : Float → Float → Bool) : List Float → Float
  | [] => 0
  | first :: rest => rest.foldl (fun kept value => if preferred value kept then value else kept) first

/-- The least member of a sample. -/
def least (sample : List Float) : Float := extreme (fun value kept => value < kept) sample

/-- The greatest member of a sample. -/
def greatest (sample : List Float) : Float := extreme (fun value kept => kept < value) sample

/-- The member of an ascending sample below which lies the given part of it. -/
def percentile (part : Float) (ascending : List Float) : Float :=
  member ascending (Float.ofNat ascending.length * part).toUInt64.toNat

end ThreadHost.Statistics
