-- SUMMARY: The lines of a log.

/-!
# Log lines

A computation that logs returns its lines as a list, oldest first.
-/

namespace DidAdmission

/-- How important a line is. -/
inductive Level
  | info
  | debug
  | trace
deriving DecidableEq, Repr

def Level.name : Level → String
  | .info => "info"
  | .debug => "debug"
  | .trace => "trace"

/-- A line of a log. -/
structure LogLine where
  level : Level
  text : String
deriving DecidableEq, Repr

end DidAdmission
