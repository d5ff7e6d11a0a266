import SolidityAudit.Metrics.Counter

/-!
# Histograms

A histogram keeps the observations of each tuple of label values in the order
in which they came. It shows how many of them lie at or below each of a few
bounds, how many there are, and their sum.

## Main definitions

* `Histogram`: The observations with the name and the labels they are shown
  under.
* `Histogram.observe`: Adds an observation.
* `Histogram.within`: How many observations lie at or below a bound.
* `Histogram.lines`: The histogram as lines of text.
-/

namespace SolidityAudit

namespace Metrics

/-- Observations by label tuple, the oldest first. -/
structure Histogram where
  name : String
  help : String
  labels : List String
  observations : Series (List Binary64) := []

namespace Histogram

/-- The bounds, in increasing order: from five thousandths to ten. -/
def bounds : List Binary64 :=
  [(5, -3), (1, -2), (25, -3), (5, -2), (1, -1), (25, -2), (5, -1), (1, 0), (25, -1), (5, 0),
    (1, 1)].map fun (d : Nat × Int) => Binary64.ofDecimal false ⟨d.1, d.2⟩

/-- Adds an observation. -/
def observe (h : Histogram) (labels : List String) (value : Binary64) : Histogram :=
  { h with observations := Series.update labels (fun t => t.getD [] ++ [value]) h.observations }

/-- How many observations lie at or below a bound. -/
def within (values : List Binary64) (bound : Binary64) : Nat :=
  values.countP fun v => v.le bound

/-- The sum of observations, added from the oldest on. -/
def total (values : List Binary64) : Binary64 :=
  values.foldl (· + ·) (Binary64.zero false)

/-- The line of a bucket. -/
def bucketLine (h : Histogram) (labels bound : String) (count : Nat) : String :=
  seriesText (h.name ++ "_bucket") (labels ++ ",le=\"" ++ bound ++ "\"") ++ " " ++ toString count

/-- The lines of a tuple. -/
def sampleLines (h : Histogram) (s : List String × List Binary64) : List String :=
  let labels := labelText h.labels s.1
  (bounds.map fun b => h.bucketLine labels b.text (within s.2 b)) ++
    [
      h.bucketLine labels "+Inf" s.2.length,
      seriesText (h.name ++ "_sum") labels ++ " " ++ (total s.2).fixed 6,
      seriesText (h.name ++ "_count") labels ++ " " ++ toString s.2.length]

/-- The histogram as lines of text. -/
def lines (h : Histogram) : List String :=
  headerLines h.name h.help "histogram" ++ h.observations.flatMap h.sampleLines

end Histogram

end Metrics

end SolidityAudit
