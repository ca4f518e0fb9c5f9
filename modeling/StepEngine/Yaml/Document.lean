import StepEngine.Yaml.Node.Reader
import StepEngine.Yaml.Scalar
import StepEngine.Yaml.Token.Lexer

/-!
# The value of a YAML text

A text holds one document at most; a text without one has the value nothing. Aliases are replaced by the values of the nodes that they stand
for. The keys of a mapping differ. Collections nested too deep, and texts whose aliases unfold to far more than is written, are refused; so is
every text that is not well formed.
-/

namespace StepEngine

namespace Yaml

/-! ## Documents of tokens -/

/-- What is known before a document starts: whether its version is given, and what the handles of tags stand for. -/
structure Preamble where
  versioned : Bool
  handles : List (String × List UInt8)

namespace Preamble

/-- The handles that always stand for something. -/
def defaultHandles : List (String × List UInt8) := [("!", [Tag.mark]), ("!!", Tag.core "")]

/-- Nothing is said before the document. -/
def empty : Preamble := ⟨false, []⟩

/-- The directives before a document, and the tokens behind them. The version is given once and is one of the first, and a handle is defined
once. -/
def read? (p : Preamble) : List Token → Option (Preamble × List Token)
  | .versionDirective major minor :: rest =>
    if p.versioned || major ≠ 1 || (minor ≠ 1 && minor ≠ 2) then none else { p with versioned := true }.read? rest
  | .tagDirective handle lead :: rest =>
    if (p.handles.lookup handle).isSome then none
    else { p with handles := p.handles ++ [(handle, lead)] }.read? rest
  | tokens => some (p, tokens)

/-- What the handles of tags stand for in the document. -/
def allHandles (p : Preamble) : List (String × List UInt8) := p.handles ++ defaultHandles

end Preamble

/-- A document that is read: its node, the anchors in it and its size, and the tokens behind it. -/
structure Document where
  node : Node
  anchors : Anchors
  size : Nat
  rest : List Token

namespace Document

/-- A document without content. -/
def blank (rest : List Token) : Document := ⟨Node.empty none, Anchors.empty, 1, rest⟩

/-- The document whose node starts here. A token is followed by three turns at most that take none, so the fuel is enough. -/
def ofRoot? (handles : List (String × List UInt8)) (tokens : List Token) : Option Document := do
  let r ← (Reader.mk tokens (.node true false) [] Anchors.empty handles 0).run? (4 * tokens.length + 4)
  match r.turn with
  | .done node => return ⟨node, r.anchors, r.size, r.tokens⟩
  | _ => none

/-- The document behind its start mark. -/
def ofContent? (handles : List (String × List UInt8)) (tokens : List Token) : Option Document :=
  match tokens with
  | [] => some (blank tokens)
  | .documentStart :: _ | .documentEnd :: _ | .versionDirective _ _ :: _ | .tagDirective _ _ :: _ => some (blank tokens)
  | _ => ofRoot? handles tokens

/-- The document of a text, if the text has any content: one that starts with its content, or one behind directives and a start mark. Behind
it only end marks may follow. -/
def ofTokens? (tokens : List Token) : Option Document := do
  let (preamble, rest) ← Preamble.empty.read? tokens
  let document ←
    match rest with
    | .documentStart :: rest => ofContent? preamble.allHandles rest
    | _ => if tokens == rest then if rest.isEmpty then some (blank []) else ofRoot? preamble.allHandles rest else none
  if (document.rest.dropWhile (· == .documentEnd)).isEmpty then some document else none

end Document

/-! ## Values of nodes -/

/-- A collection with the tag of its node. Only a local tag has a meaning for it. -/
def withTag (tag : Option Tag) (y : Yaml) : Yaml :=
  match tag with
  | some (.named name) => .tagged name y
  | _ => y

/-- Computations that may unfold an alias as often as the state says. -/
abbrev Unfolding := StateT Nat Option

/-- The node that an alias stands for, or the node itself if it is no alias. -/
def target (anchors : Anchors) : Node → Unfolding Node
  | .alias slot => do
    match (← get) with
    | 0 => failure
    | left + 1 =>
      set left
      match anchors.node? slot with
      | some n => return n
      | none => failure
  | n => return n

/-- A mapping with one more entry, if the key is new. -/
def addEntry? (entries : List (Yaml × Yaml)) (key : Yaml) (value : Unfolding Yaml) : Unfolding (List (Yaml × Yaml)) :=
  if (find? key entries).isSome then failure
  else do return (key, ← value) :: entries

/-- The value of a node, with collections nested to the given depth at most. -/
def ofNode? (anchors : Anchors) : Nat → Node → Unfolding Yaml
  | _, .scalar tag content plain => fun left => (ofScalar? tag content plain).map (·, left)
  | depth + 1, .sequence tag items => do
    let values ← items.mapM fun n => do ofNode? anchors depth (← target anchors n)
    return withTag tag (.sequence values)
  | depth + 1, .mapping tag entries => do
    let values ← entries.foldlM (fun done (k, v) => do
      let key ← ofNode? anchors depth (← target anchors k)
      addEntry? done key do ofNode? anchors depth (← target anchors v)) []
    return withTag tag (.mapping values.reverse)
  | _, _ => failure

/-- Collections may be nested to this depth. -/
def depthLimit : Nat := 128

/-- An alias may be unfolded this often for every part of the text. -/
def unfoldLimit : Nat := 100

/-- The value of a document. -/
def Document.value? (d : Document) : Option Yaml :=
  (ofNode? d.anchors depthLimit d.node |>.run (unfoldLimit * d.size)).map (·.1)

/-- The value that a text writes. -/
def parse? (s : String) : Option Yaml := do
  let tokens ← Token.ofText? s
  let document ← Document.ofTokens? tokens
  document.value?

end Yaml

end StepEngine
