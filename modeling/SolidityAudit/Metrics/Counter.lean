import SolidityAudit.Metrics.Series
import SolidityAudit.Number.Decimal

/-!
# Counters

A counter adds up amounts for each tuple of label values.

## Main definitions

* `Counter`: The totals with the name and the labels they are shown under.
* `Counter.add`: Adds an amount.
* `Counter.get`: The total of a tuple.
* `Counter.lines`: The counter as lines of text.
-/

namespace SolidityAudit

namespace Metrics

/-- Totals by label tuple. -/
structure Counter where
  name : String
  help : String
  labels : List String
  totals : Series Binary64 := []

/-- The two lines that introduce a metric. -/
def headerLines (name help kind : String) : List String :=
  ["# HELP " ++ name ++ " " ++ help, "# TYPE " ++ name ++ " " ++ kind]

/-- A name with its labels. -/
def seriesText (name labels : String) : String :=
  name ++ "\x7b" ++ labels ++ "\x7d"

/-- The amount of one event. -/
def one : Binary64 := Binary64.ofNat 1

namespace Counter

/-- The total of a tuple, zero if nothing was added. -/
def get (c : Counter) (labels : List String) : Binary64 :=
  (Series.get? labels c.totals).getD (Binary64.zero false)

/-- Adds an amount to the total of a tuple. -/
def add (c : Counter) (labels : List String) (amount : Binary64) : Counter :=
  { c with
    totals := Series.update labels (fun t => t.getD (Binary64.zero false) + amount) c.totals }

/-- Counts one event. -/
def count (c : Counter) (labels : List String) : Counter :=
  c.add labels one

/-- The line of a total. -/
def sampleLine (c : Counter) (s : List String × Binary64) : String :=
  seriesText c.name (labelText c.labels s.1) ++ " " ++ s.2.text

/-- The counter as lines of text. -/
def lines (c : Counter) : List String :=
  headerLines c.name c.help "counter" ++ c.totals.map c.sampleLine

end Counter

end Metrics

end SolidityAudit
