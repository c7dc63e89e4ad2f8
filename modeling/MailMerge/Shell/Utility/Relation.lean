import MailMerge.Shell.Utility.Order

/-! Lines of two files that belong together, and an order that pairs of names allow. -/

namespace MailMerge.Shell.Utility

open Work

/-! ### Lines that belong together -/

/-- A field that is shown: the one that the lines share, or one of a file. -/
inductive JoinField where
  | shared
  | own (isSecond : Bool) (number : Nat)
  deriving DecidableEq, Repr

structure Joining where
  separator : Option Char
  first : Nat
  second : Nat
  fields : Option (List JoinField)
  /-- What stands for a field that is not there. -/
  filler : List Char
  ignoresCase : Bool
  /-- Whether lines without a partner are shown, for both files. -/
  showsFirst : Bool
  showsSecond : Bool
  showsPairs : Bool

def Joining.split (joining : Joining) (line : List Char) : List (List Char) :=
  match joining.separator with
  | some mark => line.splitOn mark
  | none => (line.splitOnP isBlankChar).filter (· ≠ [])

/-- The field by which a line is joined. -/
def Joining.key (joining : Joining) (isSecond : Bool) (fields : List (List Char)) : List Char :=
  let key := fields.getD (if isSecond then joining.second else joining.first) []
  if joining.ignoresCase then upperCase key else key

/-- The line that comes of two, or of one without a partner. -/
def Joining.line (joining : Joining) (first second : Option (List (List Char))) : List Char :=
  let keyOf (isSecond : Bool) (fields : List (List Char)) : List Char :=
    fields.getD (if isSecond then joining.second else joining.first) []
  let shared :=
    match first, second with
    | some fields, _ => keyOf false fields
    | none, some fields => keyOf true fields
    | none, none => []
  let others (isSecond : Bool) (fields? : Option (List (List Char))) : List (List Char) :=
    match fields? with
    | none => []
    | some fields =>
        let key := if isSecond then joining.second else joining.first
        fields.zipIdx.filterMap fun (field, i) => if i = key then none else some field
  let shown :=
    match joining.fields with
    | none => shared :: (others false first ++ others true second)
    | some wanted =>
        wanted.map fun field =>
          let text :=
            match field with
            | .shared => shared
            | .own isSecond number =>
                (((if isSecond then second else first).getD []).getD number [])
          if text = [] then joining.filler else text
  [joining.separator.getD ' '].intercalate shown ++ [newline]

/-- Joins lines that are sorted by their keys; the number bounds how many there are. -/
def Joining.join (joining : Joining)
    : Nat → List (List (List Char)) → List (List (List Char)) → List (List Char)
  | 0, _, _ => []
  | fuel + 1, left, right =>
      let alone (isSecond : Bool) (fields : List (List Char)) : List (List Char) :=
        if isSecond then
          if joining.showsSecond then [joining.line none (some fields)] else []
        else if joining.showsFirst then [joining.line (some fields) none]
        else []
      match left, right with
      | [], [] => []
      | x :: xs, [] => alone false x ++ joining.join fuel xs []
      | [], y :: ys => alone true y ++ joining.join fuel [] ys
      | x :: xs, y :: ys =>
          let key := joining.key false x
          match compareTexts key (joining.key true y) with
          | .lt => alone false x ++ joining.join fuel xs (y :: ys)
          | .gt => alone true y ++ joining.join fuel (x :: xs) ys
          | .eq =>
              let first := (x :: xs).takeWhile fun fields => joining.key false fields = key
              let second := (y :: ys).takeWhile fun fields => joining.key true fields = key
              let pairs :=
                if joining.showsPairs then
                  first.flatMap fun x => second.map fun y => joining.line (some x) (some y)
                else []
              pairs ++ joining.join fuel ((x :: xs).drop first.length)
                ((y :: ys).drop second.length)

/-- The number of the first line that stands behind a greater one. -/
def Joining.disorder? (joining : Joining) (isSecond : Bool)
    (lines : List (List (List Char))) : Option Nat :=
  let keys := lines.map (joining.key isSecond)
  ((keys.zip keys.tail).zipIdx.find? fun ((x, y), _) => compareTexts x y == .gt).map
    fun (_, i) => i + 2

/-- Reads a list of fields. -/
def joinFields? (texts : List String) : Option (List JoinField) :=
  let words := texts.flatMap fun text =>
    (text.toList.splitOnP fun c => c = ',' || isBlankChar c).map String.ofList
  words.filter (· ≠ "") |>.mapM fun word =>
    if word = "0" then some .shared
    else
      match word.splitOn "." with
      | [file, number] =>
          match natOf? number with
          | some (number + 1) =>
              if file = "1" then some (.own false number)
              else if file = "2" then some (.own true number)
              else none
          | _ => none
      | _ => none

def joinLinesOf (words : List String) : Work Nat := do
  let name := "join"
  let switches :=
    Switches.of "iz\x01\x02\x03" "aev12jot"
      [
        ("ignore-case", 'i'), ("zero-terminated", 'z'), ("check-order", '\x01'),
        ("nocheck-order", '\x02'), ("header", '\x03')
      ]
  let arguments ← arguments switches 1 name words
  let number (letter : Char) : Work (Option Nat) := do
    match arguments.value? letter with
    | none => return none
    | some text =>
        match natOf? text with
        | some (number + 1) => return some number
        | _ => fail 1 name s!"invalid field number: {marked text}"
  let both ← number 'j'
  let first ← number '1'
  let second ← number '2'
  let automatic : Bool := arguments.value? 'o' = some "auto"
  let fields ←
    if automatic ∨ !arguments.has 'o' then pure none
    else
      match joinFields? (arguments.values 'o') with
      | some fields => pure (some fields)
      | none =>
          let text := (arguments.value? 'o').getD ""
          fail 1 name s!"invalid field specifier: {marked text}"
  let separator ←
    match arguments.value? 't' with
    | none => pure none
    | some text =>
        match text.toList with
        | [] => pure (some newline)
        | [c] => pure (some c)
        | _ => fail 1 name s!"multi-character tab {marked text}"
  let wanted := arguments.values 'a' ++ arguments.values 'v'
  match wanted.find? fun text => text ≠ "1" && text ≠ "2" with
  | some text => fail 1 name s!"invalid file number: {marked text}"
  | none => pure ()
  let joining : Joining :=
    {
      separator, fields
      first := (first <|> both).getD 0
      second := (second <|> both).getD 0
      filler := ((arguments.value? 'e').getD "").toList
      ignoresCase := arguments.has 'i'
      showsFirst := wanted.contains "1"
      showsSecond := wanted.contains "2"
      showsPairs := !arguments.has 'v'
    }
  match arguments.operands with
  | [] => misuse 1 name "missing operand"
  | [path] => misuse 1 name s!"missing operand after {quoted path}"
  | [left, right] => do
      let read (path : String) : Work (List (List (List Char))) := do
        match ← content path with
        | .ok text =>
            let mark := if arguments.has 'z' then '\x00' else newline
            return (splitAt mark text).map joining.split
        | .error e => fail 1 name (plainProblem path e)
      let xs ← read left
      let ys ← read right
      let (titles, xs, ys) :=
        if arguments.has '\x03' then
          (match xs, ys with
            | x :: _, y :: _ => [joining.line (some x) (some y)]
            | x :: _, [] => [joining.line (some x) none]
            | [], y :: _ => [joining.line none (some y)]
            | [], [] => [], xs.tail, ys.tail)
        else ([], xs, ys)
      say (titles ++ joining.join (xs.length + ys.length + 1) xs ys).flatten
      if arguments.has '\x02' then return 0
      let mut isFine := true
      for (path, isSecond, lines) in [(left, false, xs), (right, true, ys)] do
        match joining.disorder? isSecond lines with
        | none => pure ()
        | some number => do
            let shown := (lines.getD (number - 1) [])
            let text := String.ofList ([joining.separator.getD ' '].intercalate shown)
            warn name s!"{path}:{number}: is not sorted: {text}"
            isFine := false
      if !isFine then fail 1 name "input is not in sorted order"
      return 0
  | _ :: _ :: extra :: _ => misuse 1 name s!"extra operand {quoted extra}"

/-! ### An order that pairs allow -/

/-- A name that is to be put in order: how many names it has to wait for, and those that
wait for it, the last one first.
-/
structure Item where
  name : List Char
  count : Nat
  followers : List (List Char)

/-- Changes the item of a name. -/
def changeItem (name : List Char) (change : Item → Item) (items : List Item) : List Item :=
  items.map fun item => if item.name = name then change item else item

/-- Notes that a name comes before another one. -/
def addPair (items : List Item) (pair : List Char × List Char) : List Item :=
  if pair.1 = pair.2 then items
  else
    changeItem pair.2 (fun item => { item with count := item.count + 1 })
      (changeItem pair.1 (fun item => { item with followers := pair.2 :: item.followers }) items)

/-- Takes names that wait for nothing, and those that wait for them alone; the number bounds
how many there are. Tells the names in their order and what is left.
-/
def takeFree : Nat → List (List Char) → List Item → List (List Char) → List (List Char) × List Item
  | 0, _, items, done => (done.reverse, items)
  | _, [], items, done => (done.reverse, items)
  | fuel + 1, name :: queue, items, done =>
      let followers := ((items.find? (·.name = name)).map Item.followers).getD []
      let others := items.filter (·.name ≠ name)
      let (others, queue) :=
        followers.foldl
          (fun (items, queue) follower =>
            let items := changeItem follower (fun item => { item with count := item.count - 1 }) items
            let isFree := items.any fun item => item.name = follower && item.count = 0
            (items, if isFree then queue ++ [follower] else queue))
          (others, queue)
      takeFree fuel queue others (name :: done)

/-- Walks back from a name that waits to those that it waits for, over the names in their
order; the number bounds the walks. Tells the names of a round, the first of which waits for
the last one, with what is left when that does not wait any more.
-/
def breakRound : Nat → List (List Char) → List Item → Option (List (List Char) × List Item)
  | 0, _, _ => none
  | fuel + 1, chain, items =>
      let (chain, found?) :=
        items.foldl
          (fun (chain, found?) item =>
            match found?, chain with
            | some found, chain => (chain, some found)
            | none, [] => if item.count = 0 then ([], none) else ([item.name], none)
            | none, top :: rest =>
                if item.count = 0 ∨ !item.followers.contains top then (top :: rest, none)
                else if (top :: rest).dropLast.contains item.name then
                  let names := (top :: rest).takeWhile (· ≠ item.name)
                  (top :: rest, some (names ++ [item.name], item.name, top))
                else (item.name :: top :: rest, none))
          (chain, none)
      match found? with
      | none => breakRound fuel chain items
      | some (names, before, behind) =>
          let items := changeItem before
            (fun item => { item with followers := item.followers.erase behind }) items
          some (names, changeItem behind (fun item => { item with count := item.count - 1 }) items)

/-- Puts names in order and breaks rounds; the number bounds how many there are. Tells
whether there was none.
-/
def orderItems (path : String) : Nat → Bool → List Item → Work Bool
  | 0, isFine, _ => return isFine
  | fuel + 1, isFine, items => do
      let free := (items.filter (·.count = 0)).map Item.name
      let (names, left) := takeFree (items.length + 1) free items []
      for name in names do say (name ++ [newline])
      if left.isEmpty then return isFine
      else do
        warn "tsort" s!"{path}: input contains a loop:"
        match breakRound (left.length * 2 + 2) [] left with
        | none => return false
        | some (names, left) => do
            for name in names do warn "tsort" (String.ofList name)
            orderItems path fuel false left

def orderNames (words : List String) : Work Nat := do
  let name := "tsort"
  let arguments ← arguments (Switches.of "" "" []) 1 name words
  match arguments.operands with
  | _ :: extra :: _ => misuse 1 name s!"extra operand {quoted extra}"
  | operands => do
      let path := operands.headD "-"
      match ← content path with
      | .error e => fail 1 name (plainProblem path e)
      | .ok text => do
          let found := (text.splitOnP isSpace).filter (· ≠ [])
          if found.length % 2 = 1 then
            fail 1 name s!"{path}: input contains an odd number of tokens"
          let pairs := (List.range (found.length / 2)).map fun i =>
            (found.getD (2 * i) [], found.getD (2 * i + 1) [])
          let names := found.eraseDups.mergeSort fun x y => compareTexts x y != .gt
          let items := names.map fun name => { name, count := 0, followers := [] : Item }
          let isFine ← orderItems path (names.length * names.length + 2) true
            (pairs.foldl addPair items)
          return statusOf isFine

end MailMerge.Shell.Utility
