import StepEngine.Yaml.Node
import StepEngine.Yaml.Token

/-!
# Nodes from tokens

The reader keeps the collections that are open, the innermost one first. A node that is complete goes into the innermost collection, which then
says what may come next. Where a key or a value is missing nothing is written, and the node there is an empty plain scalar.
-/

namespace StepEngine

namespace Yaml

/-- What precedes the content of a node: the number of its anchor, and the octets of its tag. -/
structure Property where
  anchor : Option Nat
  octets : Option (List UInt8)

/-- What the tag of a node says. -/
def Property.tag (p : Property) : Option Tag := p.octets.bind Tag.ofOctets?

/-- A collection that is open. Its parts so far are listed with the last one first. -/
inductive Opened where
  | blockSequence (p : Property) (items : List Node)
  /-- A block sequence that is not indented more than the mapping around it. -/
  | levelSequence (p : Property) (items : List Node)
  | flowSequence (p : Property) (items : List Node) (started : Bool)
  /-- A mapping with one entry and without braces, inside a flow sequence. -/
  | flowPair (key : Option Node)
  | blockMapping (p : Property) (entries : List (Node × Node)) (key : Option Node)
  /-- A key that is `bare` has no value of its own. -/
  | flowMapping (p : Property) (entries : List (Node × Node)) (key : Option Node) (started bare : Bool)

/-- What the reader does next. -/
inductive Turn where
  /-- It reads a node, which may be a block collection, or a block sequence at the level of its mapping. -/
  | node (block level : Bool)
  /-- It goes on with the innermost collection. -/
  | collection
  /-- The node of the document is complete. -/
  | done (node : Node)

/-- A reader in the middle of a document. -/
structure Reader where
  tokens : List Token
  turn : Turn
  opened : List Opened
  anchors : Anchors
  /-- What the handles of tags stand for. -/
  handles : List (String × List UInt8)
  /-- How many scalars, aliases, starts and ends of collections are read. -/
  size : Nat

namespace Reader

/-- A node is complete: it goes into the innermost collection. A pair in a flow sequence is complete with its value. -/
def place (r : Reader) (n : Node) : List Opened → Option Reader
  | [] => some { r with turn := .done n, opened := [] }
  | .blockSequence p items :: outer => some { r with turn := .collection, opened := .blockSequence p (n :: items) :: outer }
  | .levelSequence p items :: outer => some { r with turn := .collection, opened := .levelSequence p (n :: items) :: outer }
  | .flowSequence p items _ :: outer =>
    some { r with turn := .collection, opened := .flowSequence p (n :: items) true :: outer }
  | .flowPair none :: outer => some { r with turn := .collection, opened := .flowPair (some n) :: outer }
  | .flowPair (some key) :: outer => { r with size := r.size + 1 }.place (.mapping none [(key, n)]) outer
  | .blockMapping p entries none :: outer =>
    some { r with turn := .collection, opened := .blockMapping p entries (some n) :: outer }
  | .blockMapping p entries (some key) :: outer =>
    some { r with turn := .collection, opened := .blockMapping p ((key, n) :: entries) none :: outer }
  | .flowMapping p entries none _ bare :: outer =>
    if bare then
      let entry := (n, Node.empty none)
      some { r with
        turn := .collection, opened := .flowMapping p (entry :: entries) none true false :: outer, size := r.size + 1 }
    else some { r with turn := .collection, opened := .flowMapping p entries (some n) true false :: outer }
  | .flowMapping p entries (some key) _ _ :: outer =>
    some { r with turn := .collection, opened := .flowMapping p ((key, n) :: entries) none true false :: outer }

/-- A scalar or an alias is read, and `rest` follows it. -/
def leaf (r : Reader) (n : Node) (rest : List Token) : Option Reader :=
  { r with tokens := rest, size := r.size + 1 }.place n r.opened

/-- Nothing is written where a node is expected. -/
def missing (r : Reader) (rest : List Token) : Option Reader := r.leaf (Node.empty none) rest

/-- The innermost collection is complete. -/
def close (r : Reader) (p : Property) (n : Node) (outer : List Opened) (rest : List Token) : Option Reader :=
  { r with tokens := rest, size := r.size + 1, anchors := r.anchors.define p.anchor n }.place n outer

/-- A collection starts. -/
def enter (r : Reader) (c : Opened) (rest : List Token) : Option Reader :=
  some { r with tokens := rest, size := r.size + 1, turn := .collection, opened := c :: r.opened }

/-- A node comes next. -/
def await (r : Reader) (block level : Bool) (rest : List Token) : Option Reader :=
  some { r with tokens := rest, turn := .node block level }

/-- The innermost collection changed without a node. -/
def setInnermost (r : Reader) (c : Opened) : Reader := { r with opened := c :: r.opened.tail }

/-- The tag that a handle and a suffix spell. -/
def tag? (r : Reader) (handle : String) (suffix : List UInt8) : Option (List UInt8) :=
  if handle.isEmpty then some suffix else (r.handles.lookup handle).map (· ++ suffix)

/-- The properties before the content of a node, in either order. -/
def properties? (r : Reader) : Option (Reader × Property) :=
  let named (name : String) : Reader := { r with anchors := r.anchors.declare name }
  match r.tokens with
  | .anchor name :: .tag handle suffix :: rest | .tag handle suffix :: .anchor name :: rest =>
    (r.tag? handle suffix).map fun tag => ({ named name with tokens := rest }, ⟨some r.anchors.count, some tag⟩)
  | .anchor name :: rest => some ({ named name with tokens := rest }, ⟨some r.anchors.count, none⟩)
  | .tag handle suffix :: rest => (r.tag? handle suffix).map fun tag => ({ r with tokens := rest }, ⟨none, some tag⟩)
  | _ => some (r, ⟨none, none⟩)

/-- A scalar with its properties. -/
def scalar (r : Reader) (p : Property) (text : String) (plain : Bool) (rest : List Token) : Option Reader :=
  let n := Node.scalar p.tag text plain
  { r with anchors := r.anchors.define p.anchor n }.leaf n rest

/-- The content of a node behind its properties. -/
def content (r : Reader) (p : Property) (block level : Bool) : Option Reader :=
  let absent : Option Reader :=
    if p.anchor.isSome || p.octets.isSome then
      let n := Node.empty p.tag
      { r with anchors := r.anchors.define p.anchor n }.leaf n r.tokens
    else none
  match r.tokens with
  | .blockEntry :: _ => if level then r.enter (.levelSequence p []) r.tokens else absent
  | .scalar content plain :: rest => r.scalar p content plain rest
  | .flowSequenceStart :: rest => r.enter (.flowSequence p [] false) rest
  | .flowMappingStart :: rest => r.enter (.flowMapping p [] none false false) rest
  | .blockSequenceStart :: rest => if block then r.enter (.blockSequence p []) rest else absent
  | .blockMappingStart :: rest => if block then r.enter (.blockMapping p [] none) rest else absent
  | _ => absent

/-- One node, or the start of one. -/
def node (r : Reader) (block level : Bool) : Option Reader :=
  match r.tokens with
  | .alias name :: rest => (r.anchors.slot? name).bind fun slot => r.leaf (.alias slot) rest
  | _ => r.properties?.bind fun (r, p) => r.content p block level

/-- A block sequence goes on with a hyphen or ends. -/
def blockItem (r : Reader) (p : Property) (items : List Node) (outer : List Opened) : Option Reader :=
  match r.tokens with
  | .blockEntry :: rest =>
    match rest with
    | .blockEntry :: _ | .blockEnd :: _ => r.missing rest
    | _ => r.await true false rest
  | .blockEnd :: rest => r.close p (.sequence p.tag items.reverse) outer rest
  | _ => none

/-- A block sequence at the level of its mapping goes on with a hyphen, and ends at anything else. -/
def levelItem (r : Reader) (p : Property) (items : List Node) (outer : List Opened) : Option Reader :=
  match r.tokens with
  | .blockEntry :: rest =>
    match rest with
    | .blockEntry :: _ | .key :: _ | .value :: _ | .blockEnd :: _ => r.missing rest
    | _ => r.await true false rest
  | _ => r.close p (.sequence p.tag items.reverse) outer r.tokens

/-- A key or a value of a block mapping is written here, unless another one starts or the mapping ends. -/
def blockPart (r : Reader) (rest : List Token) : Option Reader :=
  match rest with
  | .key :: _ | .value :: _ | .blockEnd :: _ => r.missing rest
  | _ => r.await true true rest

/-- A block mapping goes on with a key or ends. -/
def blockKey (r : Reader) (p : Property) (entries : List (Node × Node)) (outer : List Opened) : Option Reader :=
  match r.tokens with
  | .key :: rest => r.blockPart rest
  | .blockEnd :: rest => r.close p (.mapping p.tag entries.reverse) outer rest
  | _ => none

/-- The value of a key of a block mapping. -/
def blockValue (r : Reader) : Option Reader :=
  match r.tokens with
  | .value :: rest => r.blockPart rest
  | _ => r.missing r.tokens

/-- A flow sequence goes on with an item, behind a comma unless it is the first one, or ends. -/
def flowItem (r : Reader) (p : Property) (items : List Node) (started : Bool) (outer : List Opened) : Option Reader :=
  let item (tokens : List Token) : Option Reader :=
    match tokens with
    | .flowSequenceEnd :: rest => r.close p (.sequence p.tag items.reverse) outer rest
    | .key :: rest => r.enter (.flowPair none) rest
    | _ => r.await false false tokens
  match started, r.tokens with
  | _, .flowSequenceEnd :: _ => item r.tokens
  | false, tokens => item tokens
  | true, .flowEntry :: rest => item rest
  | true, _ => none

/-- The key of a pair in a flow sequence. A token that cannot start it is passed over. -/
def pairKey (r : Reader) : Option Reader :=
  match r.tokens with
  | .value :: rest | .flowEntry :: rest | .flowSequenceEnd :: rest => r.missing rest
  | _ => r.await false false r.tokens

/-- The value of a pair in a flow sequence. -/
def pairValue (r : Reader) : Option Reader :=
  match r.tokens with
  | .value :: rest =>
    match rest with
    | .flowEntry :: _ | .flowSequenceEnd :: _ => r.missing rest
    | _ => r.await false false rest
  | _ => r.missing r.tokens

/-- A flow mapping goes on with a key, behind a comma unless it is the first one, or ends. -/
def flowKey (r : Reader) (p : Property) (entries : List (Node × Node)) (started : Bool) (outer : List Opened) :
    Option Reader :=
  let entry (tokens : List Token) : Option Reader :=
    match tokens with
    | .flowMappingEnd :: rest => r.close p (.mapping p.tag entries.reverse) outer rest
    | .key :: rest =>
      match rest with
      | .value :: _ | .flowEntry :: _ | .flowMappingEnd :: _ => r.missing rest
      | _ => r.await false false rest
    | _ => (r.setInnermost (.flowMapping p entries none true true)).await false false tokens
  match started, r.tokens with
  | _, .flowMappingEnd :: _ => entry r.tokens
  | false, tokens => entry tokens
  | true, .flowEntry :: rest => entry rest
  | true, _ => none

/-- The value of a key of a flow mapping. -/
def flowValue (r : Reader) : Option Reader :=
  match r.tokens with
  | .value :: rest =>
    match rest with
    | .flowEntry :: _ | .flowMappingEnd :: _ => r.missing rest
    | _ => r.await false false rest
  | _ => r.missing r.tokens

/-- The next thing that the reader does. -/
def step (r : Reader) : Option Reader :=
  match r.turn, r.opened with
  | .done _, _ => some r
  | .node block level, _ => r.node block level
  | .collection, [] => none
  | .collection, .blockSequence p items :: outer => r.blockItem p items outer
  | .collection, .levelSequence p items :: outer => r.levelItem p items outer
  | .collection, .flowSequence p items started :: outer => r.flowItem p items started outer
  | .collection, .flowPair none :: _ => r.pairKey
  | .collection, .flowPair (some _) :: _ => r.pairValue
  | .collection, .blockMapping p entries none :: outer => r.blockKey p entries outer
  | .collection, .blockMapping _ _ (some _) :: _ => r.blockValue
  | .collection, .flowMapping p entries none started _ :: outer => r.flowKey p entries started outer
  | .collection, .flowMapping _ _ (some _) _ _ :: _ => r.flowValue

/-- The reader when the node of the document is complete. -/
def run? : Nat → Reader → Option Reader
  | 0, _ => none
  | fuel + 1, r =>
    match r.turn with
    | .done _ => some r
    | _ => r.step.bind (run? fuel)

end Reader

end Yaml

end StepEngine
