/-!
# About the Program

## Main definitions

* `About.version`: The version of the program.
-/

namespace SolidityAudit

namespace About

/-- The version of the program. -/
def version : String := "1.0.0"

end About

end SolidityAudit
