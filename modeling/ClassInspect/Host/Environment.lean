/-!
# Environment variables
-/

namespace ClassInspect

/-- The values of the variables that are set. -/
abbrev Environment := String → Option String

end ClassInspect
