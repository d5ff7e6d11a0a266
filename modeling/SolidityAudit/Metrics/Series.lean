
/-!
# Labelled Series

A metric keeps one value for each tuple of label values it has met. The tuples
stand in increasing order, compared label by label and a label by its
characters, so that what is shown does not depend on which tuple came first.

## Main definitions

* `Series`: The values by label tuple.
* `Series.get?`: The value of a tuple.
* `Series.update`: Changes the value of a tuple.
* `labelText`: The labels of a tuple as they are shown.
-/

namespace SolidityAudit

namespace Metrics

/-- Values by label tuple, in increasing order of the tuples. -/
abbrev Series (α : Type) := List (List String × α)

namespace Series

/-- The value of a tuple. -/
def get? {α : Type} (labels : List String) : Series α → Option α
  | [] => none
  | (l, a) :: r => if l = labels then some a else get? labels r

/-- Changes the value of a tuple. A tuple that was not met before is put in its
    place. -/
def update {α : Type} (labels : List String) (f : Option α → α) : Series α → Series α
  | [] => [(labels, f none)]
  | (l, a) :: r =>
    if labels < l then (labels, f none) :: (l, a) :: r
    else if l = labels then (l, f (some a)) :: r
    else (l, a) :: update labels f r

end Series

/-- Each name with its value, as long as there are both. -/
def labelPairs (names values : List String) : List String :=
  List.zipWith (fun n v => n ++ "=\"" ++ v ++ "\"") names values

/-- The labels of a tuple as they are shown. -/
def labelText (names values : List String) : String :=
  String.intercalate "," (labelPairs names values)

end Metrics

end SolidityAudit
