import MailMerge.Pairs
import MailMerge.Yaml.Token

/-! The nodes of a document as one sequence of events: scalars, the ends of lists and maps,
and nodes that stand again by their name. Names may be given anew, so an event holds the
number of the name that it meant.
-/

namespace MailMerge.Yaml

inductive Event where
  | alias (number : Nat)
  | scalar (tag : Option Bytes) (isPlain : Bool) (text : String)
  | openList (tag : Option Bytes)
  | closeList
  | openMap (tag : Option Bytes)
  | closeMap
  deriving DecidableEq, Repr

/-- The events of one document, and the places of the events that numbers stand for. -/
structure Stream where
  events : Array Event
  places : List (Nat × Nat)

namespace Stream

/-- What has been made of the tokens so far. -/
structure Builder where
  tokens : List Token
  handles : List (String × Bytes)
  anchors : List (String × Nat)
  stream : Stream

abbrev Build := StateT Builder Option

def peek : Build Token := do
  match (← get).tokens with
  | [] => failure
  | token :: _ => return token

def skip : Build Unit :=
  modify fun builder => { builder with tokens := builder.tokens.tail }

/-- Takes a token that has to stand ahead. -/
def expect (token : Token) : Build Unit := do
  if (← peek) = token then skip else failure

def emit (event : Event) : Build Unit :=
  modify fun builder =>
    { builder with
      stream := { builder.stream with events := builder.stream.events.push event } }

/-- A scalar that nothing was written for. -/
def emitEmpty : Build Unit :=
  emit (.scalar none true "")

/-- Gives the event that comes next a name. A name's number is how many names are known;
a name that is known already does not add to them.
-/
def name (anchor : String) : Build Unit :=
  modify fun builder =>
    let number := builder.anchors.length
    let place := builder.stream.events.size
    { builder with
      anchors := Pairs.assign anchor number builder.anchors
      stream :=
        { builder.stream with places := Pairs.assign number place builder.stream.places } }

/-- What may stand before a node. -/
structure Properties where
  anchor : Option String
  tag : Option Bytes
  deriving DecidableEq, Repr

def takeAnchor : Build (Option String) := do
  match ← peek with
  | .anchor name => do skip; return some name
  | _ => return none

/-- Takes a tag, written out in full. -/
def takeTag : Build (Option Bytes) := do
  match ← peek with
  | .tag "" rest => do skip; return some rest
  | .tag handle rest => do
      skip
      match (← get).handles.lookup handle with
      | some start => return some (start ++ rest)
      | none => failure
  | _ => return none

/-- Takes the name and the tag before a node, in either order. -/
def takeProperties : Build Properties := do
  match ← takeAnchor with
  | some anchor => return { anchor, tag := ← takeTag }
  | none => do
      let tag ← takeTag
      let anchor ← if tag.isSome then takeAnchor else pure none
      return { anchor, tag }

mutual
/-- A node. Block collections stand in blocks only; the entries of a list may stand without
a block of their own as a value of a map.
-/
def node (inBlock allowsBare : Bool) : Nat → Build Unit
  | 0 => failure
  | fuel + 1 => do
      match ← peek with
      | .alias anchor => do
          skip
          match (← get).anchors.lookup anchor with
          | some number => emit (.alias number)
          | none => failure
      | _ => do
          let properties ← takeProperties
          let tag := properties.tag
          let token ← peek
          let isNode : Bool :=
            match token with
            | .dash => allowsBare
            | .openBlockList | .openBlockMap => inBlock
            | .scalar .. | .openList | .openMap => true
            | _ => false
          if !isNode ∧ properties.anchor.isNone ∧ tag.isNone then failure
          properties.anchor.forM name
          if !isNode then emit (.scalar tag true "")
          else
            match token with
            | .scalar isPlain text => do skip; emit (.scalar tag isPlain text)
            | .openList => do
                skip; emit (.openList tag); flowItems true fuel; emit .closeList
            | .openMap => do
                skip; emit (.openMap tag); flowEntries true fuel; emit .closeMap
            | .openBlockList => do
                skip; emit (.openList tag); blockItems fuel; emit .closeList
            | .openBlockMap => do
                skip; emit (.openMap tag); blockEntries fuel; emit .closeMap
            | _ => do emit (.openList tag); bareItems fuel; emit .closeList

/-- A node, unless one of some tokens stands ahead. -/
def nodeUnless (ends : List Token) (inBlock allowsBare : Bool) : Nat → Build Unit
  | 0 => failure
  | fuel + 1 => do
      if ends.contains (← peek) then emitEmpty else node inBlock allowsBare fuel

/-- The items of a list in a block of its own. -/
def blockItems : Nat → Build Unit
  | 0 => failure
  | fuel + 1 => do
      match ← peek with
      | .dash => do
          skip
          nodeUnless [.dash, .closeBlock] true false fuel
          blockItems fuel
      | _ => expect .closeBlock

/-- The items of a list that stands in the block of a map. -/
def bareItems : Nat → Build Unit
  | 0 => failure
  | fuel + 1 => do
      match ← peek with
      | .dash => do
          skip
          nodeUnless [.dash, .key, .value, .closeBlock] true false fuel
          bareItems fuel
      | _ => return

/-- The entries of a map in a block. -/
def blockEntries : Nat → Build Unit
  | 0 => failure
  | fuel + 1 => do
      match ← peek with
      | .key => do
          skip
          nodeUnless [.key, .value, .closeBlock] true true fuel
          match ← peek with
          | .value => do
              skip
              nodeUnless [.key, .value, .closeBlock] true true fuel
          | _ => emitEmpty
          blockEntries fuel
      | _ => expect .closeBlock

/-- The items of a list in brackets. An item that is marked as a key makes a map. -/
def flowItems (isFirst : Bool) : Nat → Build Unit
  | 0 => failure
  | fuel + 1 => do
      if (← peek) = .closeList then skip
      else do
        if !isFirst then expect .comma
        match ← peek with
        | .closeList => skip
        | .key => do
            skip
            emit (.openMap none)
            flowPair fuel
            emit .closeMap
            flowItems false fuel
        | _ => do
            node false false fuel
            flowItems false fuel

/-- A key in a list and its value. Where the key is missing, so is the token behind it. -/
def flowPair : Nat → Build Unit
  | 0 => failure
  | fuel + 1 => do
      if [Token.value, .comma, .closeList].contains (← peek) then do
        skip
        emitEmpty
      else node false false fuel
      flowValue [.comma, .closeList] fuel

/-- What stands behind the colon in brackets, if there is one. -/
def flowValue (ends : List Token) : Nat → Build Unit
  | 0 => failure
  | fuel + 1 => do
      match ← peek with
      | .value => do
          skip
          nodeUnless ends false false fuel
      | _ => emitEmpty

/-- The entries of a map in braces. A key may stand without a value. -/
def flowEntries (isFirst : Bool) : Nat → Build Unit
  | 0 => failure
  | fuel + 1 => do
      if (← peek) = .closeMap then skip
      else do
        if !isFirst then expect .comma
        match ← peek with
        | .closeMap => skip
        | .key => do
            skip
            nodeUnless [.value, .comma, .closeMap] false false fuel
            flowValue [.comma, .closeMap] fuel
            flowEntries false fuel
        | _ => do
            node false false fuel
            emitEmpty
            flowEntries false fuel
end

/-! ### Documents -/

/-- What tags start with where nothing else is said. -/
def standardHandles : List (String × Bytes) :=
  [("!", Text.toBytes "!"), ("!!", Text.toBytes "tag:yaml.org,2002:")]

/-- Takes the directives of a document, none of them twice. -/
def directives (hasVersion : Bool) : Nat → Build Unit
  | 0 => failure
  | fuel + 1 => do
      match ← peek with
      | .version major minor => do
          if hasVersion ∨ major ≠ 1 ∨ (minor ≠ 1 ∧ minor ≠ 2) then failure
          skip
          directives true fuel
      | .handle handle start => do
          let builder ← get
          if (builder.handles.lookup handle).isSome then failure
          skip
          modify fun builder =>
            { builder with handles := builder.handles ++ [(handle, start)] }
          directives hasVersion fuel
      | _ => return

def isDirective : Token → Bool
  | .version .. | .handle .. => true
  | _ => false

/-- The node of a document, and the frame around it. -/
def document (fuel : Nat) : Build Unit := do
  let first ← peek
  if isDirective first ∨ first = .documentStart then
    directives false fuel
    expect .documentStart
    modify fun builder => { builder with handles := builder.handles ++ standardHandles }
    let token ← peek
    if isDirective token
        ∨ [Token.documentStart, .documentEnd, .streamEnd].contains token then
      emitEmpty
    else node true false fuel
  else
    modify fun builder => { builder with handles := standardHandles }
    node true false fuel

/-- Only marks of a document's end may follow a document. -/
def rest : Nat → Build Unit
  | 0 => failure
  | fuel + 1 => do
      match ← peek with
      | .documentEnd => do
          skip
          rest fuel
      | token => if token = .streamEnd then return else failure

/-- The events of the one document in a text. A text may also hold none. -/
def ofTokens (tokens : List Token) : Option Stream :=
  let empty : Stream := { events := #[], places := [] }
  if tokens.head? = some .streamEnd then some empty
  else
    let fuel := 8 * tokens.length + 16
    let build := do
      document fuel
      rest fuel
    (build.run { tokens, handles := [], anchors := [], stream := empty }).map (·.2.stream)

end Stream

end MailMerge.Yaml
