/-!
# Names of Loggers

Loggers form a tree by their names, whose parts are separated by dots. The names
above a logger are found from the end: each dot marks one, the part before it,
and the search goes on before the last character of that part. A dot at the end
of such a part is therefore never looked at, and of two dots in a row only the
second one counts.

## Main definitions

* `Logger.above`: The names above a logger, the nearest first.
-/

namespace SolidityAudit

namespace Log

namespace Logger

/-- The names above one whose characters are given in reverse, with as many
    characters that are not to be looked at. -/
def aboveReversed : Nat → List Char → List (List Char)
  | _, [] => []
  | skip + 1, _ :: r => aboveReversed skip r
  | 0, c :: r =>
    if c = '.' && !r.isEmpty then r.reverse :: aboveReversed 1 r else aboveReversed 0 r

/-- The names above a logger, the nearest first. -/
def above (logger : String) : List String :=
  (aboveReversed 0 logger.toList.reverse).map String.ofList

end Logger

end Log

end SolidityAudit
