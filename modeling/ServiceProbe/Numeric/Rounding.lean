/-!
# Rounding of quotients

A quotient of natural numbers rounded to the nearest natural number, in exact arithmetic. The
two rounding rules differ only where the quotient lies half way between two numbers.
-/

namespace ServiceProbe.Rounding

/-- Where a quotient goes that lies half way between two numbers. -/
inductive Tie where
  /-- To the even neighbour. -/
  | toEven
  /-- To the larger neighbour, away from zero. -/
  | away
  deriving DecidableEq

/-- Whether a quotient goes up from its floor `q`, where `r` of `den` remain. -/
def goesUp (tie : Tie) (q r den : Nat) : Bool :=
  match compare (2 * r) den with
  | .lt => false
  | .gt => true
  | .eq => match tie with
    | .toEven => q % 2 = 1
    | .away => true

/-- The number nearest to `num / den`, for a positive `den`. -/
def nearest (tie : Tie) (num den : Nat) : Nat :=
  if goesUp tie (num / den) (num % den) den then num / den + 1 else num / den

end ServiceProbe.Rounding
