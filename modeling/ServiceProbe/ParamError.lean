/-!
# Parameter errors

What can be wrong with the parameters of a metric. A service that is down is none of these.
-/

namespace ServiceProbe

/-- Why a metric was not evaluated. -/
inductive ParamError where
  /-- The first parameter is missing or names no protocol. -/
  | invalidFirst
  /-- The second parameter is missing or no port. -/
  | invalidSecond
  /-- The third parameter is missing where it has no default. -/
  | invalidThird
  /-- There are more parameters than the metric takes. -/
  | tooMany
  /-- No metric has this name. -/
  | unsupportedMetric
  deriving DecidableEq

/-- The text of a parameter error. -/
def ParamError.message : ParamError → String
  | invalidFirst => "Invalid first parameter."
  | invalidSecond => "Invalid second parameter."
  | invalidThird => "Invalid third parameter."
  | tooMany => "Too many parameters."
  | unsupportedMetric => "Unsupported metric."

end ServiceProbe
