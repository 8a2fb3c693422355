/-!
# Characters by ranges

A character property is held as a list of code point ranges, or of evenly spaced runs where upper and
lower case letters alternate. `Ranges.has` and `Runs.has` test membership.
-/

namespace ActionForge.Text

/-- Closed code point ranges, in increasing order. -/
abbrev Ranges := List (Nat × Nat)

/-- Whether a code point lies in one of the ranges. -/
def Ranges.has (ranges : Ranges) (code : Nat) : Bool :=
  ranges.any fun range => range.1 ≤ code && code ≤ range.2

/-- The value for a code point, where each table stands with the value for what it has. The first one counts. -/
def Ranges.value? {α : Type} (entries : List (Ranges × α)) (code : Nat) : Option α :=
  (entries.find? fun entry => entry.1.has code).map Prod.snd

/-- The code points `first`, `first + step`, … up to `last`. -/
structure Run where
  first : Nat
  last : Nat
  step : Nat

/-- Whether a code point belongs to the run. -/
def Run.has (run : Run) (code : Nat) : Bool :=
  run.first ≤ code && code ≤ run.last && (code - run.first) % run.step == 0

/-- Whether a code point belongs to one of the runs. -/
def Runs.has (runs : List Run) (code : Nat) : Bool :=
  runs.any fun run => run.has code

end ActionForge.Text
