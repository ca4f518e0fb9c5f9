import StepEngine.Yaml

/-!
# Overlay: one value laid over another

Laying a mapping over a mapping keeps every entry of the lower one, in its place, puts the new entries of the upper one behind them, and
lays value over value where both have a key. Anything else replaces what is below it.
-/

namespace StepEngine

namespace Yaml

/-- The entries with the value at a key revised, or with a new entry behind them when the key is not there. -/
def revise (key : Yaml) (change : Yaml → Yaml) (value : Yaml) : List (Yaml × Yaml) → List (Yaml × Yaml)
  | [] => [(key, value)]
  | (k, old) :: rest => if same key k then (k, change old) :: rest else (k, old) :: revise key change value rest

mutual

/-- A value laid over another one. -/
def overlay : Yaml → Yaml → Yaml
  | base, .mapping upper =>
    match base with
    | .mapping lower => .mapping (overlayEntries lower upper)
    | _ => .mapping upper
  | _, upper => upper

/-- Entries laid over other entries, one after the other. -/
def overlayEntries : List (Yaml × Yaml) → List (Yaml × Yaml) → List (Yaml × Yaml)
  | lower, [] => lower
  | lower, (key, value) :: rest => overlayEntries (revise key (fun old => overlay old value) value lower) rest

end

end Yaml

end StepEngine
