import SolidityAudit.Text.DecimalDigit

/-!
# Paths as Labels

Requests are counted by path. So that ids in paths do not make a label of their
own each, a number directly after a slash is replaced by a placeholder, the
whole run of digits at once.

## Main definitions

* `PathPlace`: Where in a path the reader stands.
* `normalizePath`: A path with its numbers replaced.
-/

namespace SolidityAudit

namespace Metrics

/-- Where in a path the reader stands: right after a slash, inside a number that
    has been replaced, or anywhere else. -/
inductive PathPlace where
  | inside
  | afterSlash
  | inNumber
deriving DecidableEq, Repr

/-- The place after a character that stands as itself. -/
def PathPlace.after (c : Char) : PathPlace :=
  if c = '/' then .afterSlash else .inside

/-- What stands for a number. -/
def placeholder : List Char := ['\x7b', 'i', 'd', '\x7d']

/-- The rest of a path with its numbers replaced. -/
def replaceNumbers : PathPlace → List Char → List Char
  | _, [] => []
  | .inside, c :: r => c :: replaceNumbers (.after c) r
  | .afterSlash, c :: r =>
    if Text.isDigit c then placeholder ++ replaceNumbers .inNumber r
    else c :: replaceNumbers (.after c) r
  | .inNumber, c :: r =>
    if Text.isDigit c then replaceNumbers .inNumber r
    else c :: replaceNumbers (.after c) r

/-- A path with its numbers replaced. -/
def normalizePath (path : String) : String :=
  String.ofList (replaceNumbers .inside path.toList)

end Metrics

end SolidityAudit
