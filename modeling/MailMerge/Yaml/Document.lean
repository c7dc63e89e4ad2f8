import MailMerge.Yaml.Event
import MailMerge.Yaml.Value

/-! The value of a document. Tags give a value a name of its own or fix the kind of a
scalar. No two keys of a map are the same, and how deep and how often nodes stand within
each other is bounded.
-/

namespace MailMerge.Yaml

/-! ### Tags -/

def standardTag (name : String) : Bytes :=
  Text.toBytes ("tag:yaml.org,2002:" ++ name)

/-- The name of a tag of the document's own. -/
def localTag? (tag : Bytes) : Option String :=
  match tag with
  | [] => none
  | first :: rest =>
      if first ≠ 0x21 then none
      else Text.ofBytes? (if rest = [] then tag else rest)

/-- What a scalar stands for under a tag that fixes its kind. -/
def Value.ofKind (tag : Bytes) (text : String) : Option Value :=
  if tag = standardTag "bool" then
    match Value.ofPlain text with
    | some (.bool value) => some (.bool value)
    | _ => none
  else if tag = standardTag "int" then
    match Value.ofPlain text with
    | some (.number (.integer value)) => some (.number (.integer value))
    | _ => none
  else if tag = standardTag "float" then (float? text.toList).map Value.number
  else if tag = standardTag "null" then
    if ["~", "null", "Null", "NULL"].contains text then some .null else none
  else some (.text text)

def Value.ofUntagged (isPlain : Bool) (text : String) : Option Value :=
  if isPlain then Value.ofPlain text else some (.text text)

/-- What a scalar stands for. -/
def Value.ofScalar (tag : Option Bytes) (isPlain : Bool) (text : String) : Option Value :=
  match tag with
  | none => Value.ofUntagged isPlain text
  | some tag =>
      match localTag? tag with
      | some name => (Value.ofUntagged isPlain text).map (Value.tagged name)
      | none =>
          if tag.head? = some 0x21 then Value.ofUntagged isPlain text
          else Value.ofKind tag text

def Value.ofCollection (tag : Option Bytes) (value : Value) : Value :=
  match tag.bind localTag? with
  | some name => .tagged name value
  | none => value

/-! ### Events -/

/-- The events ahead, and how often a name has been followed. -/
structure Progress where
  rest : List Event
  jumps : Nat

abbrev Loader := StateT Progress Option

def nextEvent : Loader Event := do
  let progress ← get
  match progress.rest with
  | [] => failure
  | event :: rest => do
      set { progress with rest }
      return event

/-- Reads values up to the event that closes their list. -/
def loadItems (item : Loader Value) : Nat → Loader (List Value)
  | 0 => failure
  | fuel + 1 => do
      if (← get).rest.head? = some .closeList then
        let _ ← nextEvent
        return []
      else
        let first ← item
        return first :: (← loadItems item fuel)

/-- Reads entries up to the event that closes their map; no key comes twice. -/
def loadEntries (item : Loader Value) : Nat → List (Value × Value)
    → Loader (List (Value × Value))
  | 0, _ => failure
  | fuel + 1, entries => do
      if (← get).rest.head? = some .closeMap then
        let _ ← nextEvent
        return entries
      else
        let key ← item
        if entries.any (·.1.same key) then failure
        let value ← item
        loadEntries item fuel (entries ++ [(key, value)])

/-- Reads a node whose parts, if it may have any, are read by another reader. -/
def loadContent (part : Option (Loader Value)) : Loader Value := do
  let size := (← get).rest.length
  match ← nextEvent, part with
  | .scalar tag isPlain text, _ =>
      match Value.ofScalar tag isPlain text with
      | some value => return value
      | none => failure
  | .openList tag, some part =>
      return Value.ofCollection tag (.list (← loadItems part size))
  | .openMap tag, some part =>
      return Value.ofCollection tag (.map (← loadEntries part size []))
  | _, _ => failure

/-- How many times as many as there are events names may be followed. -/
def maxRepetition : Nat := 100

/-- Reads a node, or the node that a name stands for. -/
def loadNode (stream : Stream) (part : Option (Loader Value)) : Loader Value := do
  match (← get).rest.head? with
  | some (.alias number) => do
      let _ ← nextEvent
      let progress ← get
      let jumps := progress.jumps + 1
      if maxRepetition * stream.events.size < jumps then failure
      match stream.places.lookup number with
      | none => failure
      | some place => do
          set { rest := stream.events.toList.drop place, jumps : Progress }
          let value ← loadContent part
          modify ({ progress with jumps := ·.jumps })
          return value
  | _ => loadContent part

/-- Reads a node with at most as many collections within each other as are allowed. -/
def load (stream : Stream) : Nat → Loader Value
  | 0 => loadNode stream none
  | depth + 1 => loadNode stream (some (load stream depth))

/-- How deep collections may stand within each other. -/
def maxDepth : Nat := 128

/-- The value of a document's events; null if there are none. -/
def Value.ofStream (stream : Stream) : Option Value :=
  if stream.events.isEmpty then some .null
  else
    ((load stream maxDepth).run { rest := stream.events.toList, jumps := 0 }).map (·.1)

/-- The value of the one document in a text; none where the text is no such thing. A text
without a document stands for null.
-/
def Value.ofText (text : String) : Option Value := do
  let tokens ← Token.ofText text
  let stream ← Stream.ofTokens tokens
  Value.ofStream stream

/-- The reader of this directory. -/
def Library.standard : Library where
  read text := (Value.ofText text).elim (.error "not a document") .ok
  numberText := Number.text

end MailMerge.Yaml
