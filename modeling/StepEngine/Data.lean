import StepEngine.Json

/-!
# Data: the state of a step or of a workflow

A step instance carries named values, and so does a workflow instance. Changes are merged in: a key is never removed, and the last
writer of a key wins.
-/

namespace StepEngine

/-- Named values. -/
abbrev Data := Dict Json

namespace Data

/-- The data with the fields of an object; any other value is no data. -/
def ofJson? (j : Json) : Option Data := j.asDict?

/-- The object with the named values. -/
def toJson (d : Data) : Json := Json.ofDict d

/-- The two hold equal values under the same keys. -/
def same (a b : Data) : Bool := Json.same (toJson a) (toJson b)

end Data

end StepEngine
