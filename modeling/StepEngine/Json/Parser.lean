import StepEngine.Json.Token

/-!
# Values from JSON texts

The tokens of a text are folded over the containers that are open: each token either opens a container, fills the innermost one or
closes it. A repeated key of an object keeps its last value. Values nested too deep are refused.
-/

namespace StepEngine

namespace Json

/-- A container that is open: its parts so far, the last one first, and for an object the key that waits for its value. -/
inductive Opened where
  | array (items : List Json)
  | object (fields : List (String × Json)) (key : Option String)

/-- What may come next inside the innermost container. -/
inductive Expecting where
  /-- A value, at the start of the text, behind a comma in an array or behind a colon. -/
  | value
  /-- A first item, or the end of an array. -/
  | itemOrEnd
  /-- A first key, or the end of an object. -/
  | keyOrEnd
  /-- A key behind a comma. -/
  | key
  /-- The colon behind a key. -/
  | colon
  /-- A comma, or the end of the container. -/
  | commaOrEnd
  /-- Nothing: the value of the text is complete. -/
  | nothing (value : Json)

/-- A reader in the middle of a text: the open containers, innermost first, and what may come next. -/
structure Reader where
  opened : List Opened
  expecting : Expecting

namespace Reader

/-- Containers may be nested to one less than this depth. -/
def depthLimit : Nat := 128

/-- Nothing is read yet. -/
def start : Reader := ⟨[], .value⟩

/-- A value is complete: it goes into the innermost container. -/
def place (j : Json) : List Opened → Option Reader
  | [] => some ⟨[], .nothing j⟩
  | .array items :: outer => some ⟨.array (j :: items) :: outer, .commaOrEnd⟩
  | .object fields (some key) :: outer => some ⟨.object ((key, j) :: fields) none :: outer, .commaOrEnd⟩
  | .object _ none :: _ => none

/-- A container is opened, if it is not nested too deep. -/
def enter (c : Opened) (next : Expecting) (opened : List Opened) : Option Reader :=
  if opened.length + 1 < depthLimit then some ⟨c :: opened, next⟩ else none

/-- One token read. -/
def step (r : Reader) (t : Token) : Option Reader :=
  match r.expecting, t, r.opened with
  | .value, .scalar j, opened => place j opened
  | .value, .text s, opened => place (.text s) opened
  | .value, .openArray, opened => enter (.array []) .itemOrEnd opened
  | .value, .openObject, opened => enter (.object [] none) .keyOrEnd opened
  | .itemOrEnd, .closeArray, .array _ :: outer => place (.array []) outer
  | .itemOrEnd, .scalar j, opened => place j opened
  | .itemOrEnd, .text s, opened => place (.text s) opened
  | .itemOrEnd, .openArray, opened => enter (.array []) .itemOrEnd opened
  | .itemOrEnd, .openObject, opened => enter (.object [] none) .keyOrEnd opened
  | .keyOrEnd, .closeObject, .object _ _ :: outer => place (.object []) outer
  | .keyOrEnd, .text s, .object fields _ :: outer => some ⟨.object fields (some s) :: outer, .colon⟩
  | .key, .text s, .object fields _ :: outer => some ⟨.object fields (some s) :: outer, .colon⟩
  | .colon, .colon, opened => some ⟨opened, .value⟩
  | .commaOrEnd, .comma, .array items :: outer => some ⟨.array items :: outer, .value⟩
  | .commaOrEnd, .comma, .object fields key :: outer => some ⟨.object fields key :: outer, .key⟩
  | .commaOrEnd, .closeArray, .array items :: outer => place (.array items.reverse) outer
  | .commaOrEnd, .closeObject, .object fields _ :: outer => place (record fields.reverse) outer
  | _, _, _ => none

/-- The value of the text, when it is complete. -/
def value? (r : Reader) : Option Json :=
  match r.expecting with
  | .nothing j => some j
  | _ => none

end Reader

/-- The value that a text writes. -/
def parse? (s : String) : Option Json := do
  let tokens ← Token.ofText? s
  let reader ← tokens.foldlM Reader.step Reader.start
  reader.value?

end Json

end StepEngine
