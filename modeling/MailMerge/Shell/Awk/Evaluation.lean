import MailMerge.Shell.Awk.Input

/-! What the expressions and statements of a program do. -/

namespace MailMerge.Shell.Awk.Step

/-! ### Texts -/

/-- The text that takes the place of a match. An ampersand stands for the match, unless an
odd number of backslashes stands in front of it.
-/
def replacement (found : List Char) : Nat → List Char → List Char
  | 0, _ => []
  | _ + 1, [] => []
  | fuel + 1, '&' :: cs => found ++ replacement found fuel cs
  | fuel + 1, '\\' :: cs =>
      let more := cs.takeWhile (· = '\\')
      let count := more.length + 1
      match cs.drop more.length with
      | '&' :: rest =>
          List.replicate (count / 2) '\\' ++ (if count % 2 = 1 then ['&'] else found)
            ++ replacement found fuel rest
      | rest => List.replicate count '\\' ++ replacement found fuel rest
  | fuel + 1, c :: cs => c :: replacement found fuel cs

/-- Puts a text in the place of matches, of the first one or of all. What is done so far
comes last piece first. Behind a match there is no empty match.
-/
def substitute (expression : Expression) (isGlobal : Bool) (fill : List Char → List Char)
    (text : List Char) : Nat → Nat → Option Nat → Nat → List (List Char) → Nat × List Char
  | 0, place, _, count, done => (count, (text.drop place :: done).reverse.flatten)
  | fuel + 1, place, lastEnd?, count, done =>
      match Pattern.find? expression place text with
      | none => (count, (text.drop place :: done).reverse.flatten)
      | some (start, size) =>
          let between := (text.drop place).take (start - place)
          let isIdle : Bool := size = 0 && lastEnd? = some start
          let piece := if isIdle then [] else fill ((text.drop start).take size)
          let count := if isIdle then count else count + 1
          let done := piece :: between :: done
          if !isGlobal then (count, (text.drop (start + size) :: done).reverse.flatten)
          else if size = 0 then
            if text.length ≤ start then (count, done.reverse.flatten)
            else
              substitute expression isGlobal fill text fuel (start + 1) none count
                ((text.drop start).take 1 :: done)
          else
            substitute expression isGlobal fill text fuel (start + size) (some (start + size))
              count done

/-- A part of a text by the place where it starts and its size. -/
def partOf (text : List Char) (start : Int) (size? : Option Int) : List Char :=
  match size? with
  | none => text.drop (start - 1).toNat
  | some size =>
      let size := if start < 0 then size - start else size
      (text.drop (max start 1 - 1).toNat).take size.toNat

/-- Where a text first stands in another one, counted from one; zero if it does not. -/
def startOf (part : List Char) : Nat → List Char → Nat
  | place, text =>
      if part.isPrefixOf text then place
      else
        match text with
        | [] => 0
        | _ :: rest => startOf part (place + 1) rest

/-- Repeats a step as long as it asks for it. -/
def repeatWhile (step : Step Bool) : Nat → Step Unit
  | 0 => lift (throw .late)
  | rounds + 1 => do
      lift Run.step
      if ← step then repeatWhile step rounds

/-- How often a loop goes round at most. -/
def maxRounds : Nat := 1000000000

/-- Runs a round of a loop. Tells whether it goes on. -/
def round (body : Step Unit) : Step Bool :=
  tryCatch (do body; return true) fun escape =>
    match escape with
    | .leaveLoop => return false
    | .nextRound => return true
    | escape => throw escape

/-- How many functions may run inside each other. -/
def maxCalls : Nat := 1000

def ofBool (value : Bool) : Value :=
  .number (if value then 1 else 0)

def ofInt (value : Int) : Value :=
  .number (Float.ofInt value)

/-- The next number of a series without order, and that of the fraction it stands for. -/
def nextSeed (seed : Nat) : Nat :=
  (seed * 1103515245 + 12345) % 0x80000000

/-- The value of a function of one number. -/
def numberFunction? (name : String) : Option (Float → Float) :=
  match name with
  | "int" => some truncated
  | "sqrt" => some Float.sqrt
  | "exp" => some Float.exp
  | "log" => some Float.log
  | "sin" => some Float.sin
  | "cos" => some Float.cos
  | _ => none

/-- What can be assigned to, with its index or key already found. -/
inductive Place where
  | name (name : String)
  | field (index : Int)
  | entry (table : Nat) (key : Key)
  | nowhere

def store (place : Place) (value : Value) : Step Unit := do
  match place with
  | .name name => setValue name value
  | .field index => setField index value
  | .entry name key => setTable name ((← table name).set key value)
  | .nowhere => pure ()

/-- The value at a place. An entry that is asked for is there from then on. -/
def fetch (place : Place) : Step Value := do
  match place with
  | .name name => value name
  | .field index => fieldAt index
  | .entry name key => do
      let found ← table name
      let value := (found.get? key).getD .nothing
      setTable name (found.set key value)
      return value
  | .nowhere => return .nothing

/-- Takes a line into a variable, or makes it the current one. -/
def acceptLine (isCounted : Bool) (put? : Option (Value → Step Unit)) (text : List Char)
    : Step Unit :=
  match put? with
  | some put => put (.ofInput text)
  | none => do
      setLine text
      if isCounted then let _ ← fields

/-! ### Expressions -/

mutual
/-- The value of an expression. -/
def eval : Nat → Expr → Step Value
  | 0, _ => lift (throw .late)
  | fuel + 1, expr => do
      match expr with
      | .number value => return .number value
      | .text text => return .text text
      | .pattern text => do
          let expression ← patternOf text
          return ofBool (Pattern.find? expression 0 (← line)).isSome
      | .name name => value name
      | .field index => do fieldAt (← fieldIndex fuel index)
      | .entry _ _ => do fetch (← placeOf fuel expr)
      | .isKey name keys => do
          let key ← keyOf fuel keys
          let place ← tableAt name
          return ofBool ((← table place).get? key).isSome
      | .group body => eval fuel body
      | .plus body => return .number (← eval fuel body).toNumber
      | .minus body => return .number (-(← eval fuel body).toNumber)
      | .not body => return ofBool !(← eval fuel body).isTrue
      | .binary operator left right => do
          let left ← eval fuel left
          let right ← eval fuel right
          match operator with
          | .append => return .text ((← textOf left) ++ (← textOf right))
          | .less | .atMost | .equal | .unequal | .more | .atLeast =>
              return ofBool (Value.compare (← numberFormat) operator left right)
          | operator => return .number (reckon operator left.toNumber right.toNumber)
      | .both left right => do
          if (← eval fuel left).isTrue then return ofBool (← eval fuel right).isTrue
          else return ofBool false
      | .either left right => do
          if (← eval fuel left).isTrue then return ofBool true
          else return ofBool (← eval fuel right).isTrue
      | .fits isNegated text pattern => do
          let text ← textOf (← eval fuel text)
          let expression ← expressionOf fuel pattern
          let isFound := (Pattern.find? expression 0 text).isSome
          return ofBool (isFound != isNegated)
      | .choice test yes no => do
          if (← eval fuel test).isTrue then eval fuel yes else eval fuel no
      | .assign target value => do
          let place ← placeOf fuel target
          let value ← eval fuel value
          store place value
          return value
      | .update operator target value => do
          let place ← placeOf fuel target
          let right ← eval fuel value
          let left ← fetch place
          let result := Value.number (reckon operator left.toNumber right.toNumber)
          store place result
          return result
      | .step isBefore isUp target => do
          let place ← placeOf fuel target
          let before := (← fetch place).toNumber
          let after := if isUp then before + 1 else before - 1
          store place (.number after)
          return .number (if isBefore then after else before)
      | .call name arguments => call fuel name arguments
      | .builtin name arguments => builtin fuel name arguments
      | .line feed origin target => takeLine fuel feed origin target
termination_by structural fuel => fuel

def fieldIndex : Nat → Expr → Step Int
  | 0, _ => lift (throw .late)
  | fuel + 1, index => do
      let number := wholePart (← eval fuel index).toNumber
      if number < 0 then failAt s!"negative field index ${number}"
      return number
termination_by structural fuel => fuel

/-- The key that several values make up. -/
def keyOf : Nat → List Expr → Step Key
  | 0, _ => lift (throw .late)
  | fuel + 1, keys => do
      match keys with
      | [key] => return Key.ofValue (← numberFormat) (← eval fuel key)
      | keys => do
          let texts ← keys.mapM fun key => do textOf (← eval fuel key)
          return .text ((← globalText "SUBSEP").intercalate texts)
termination_by structural fuel => fuel

def expressionOf : Nat → Expr → Step Expression
  | 0, _ => lift (throw .late)
  | fuel + 1, pattern => do
      match pattern with
      | .pattern text => patternOf text
      | pattern => do patternOf (← textOf (← eval fuel pattern))
termination_by structural fuel => fuel

/-- The place that an expression names. -/
def placeOf : Nat → Expr → Step Place
  | 0, _ => lift (throw .late)
  | fuel + 1, target => do
      match target with
      | .name name => return .name name
      | .field index => return .field (← fieldIndex fuel index)
      | .entry name keys => do
          let place ← tableAt name
          return .entry place (← keyOf fuel keys)
      | .group target => placeOf fuel target
      | _ => return .nowhere
termination_by structural fuel => fuel

/-- Takes a line from somewhere: one if there was one, zero at the end, else less. -/
def takeLine : Nat → Feed → Option Expr → Option Expr → Step Value
  | 0, _, _, _ => lift (throw .late)
  | fuel + 1, feed, origin, target => do
      let put? := target.map fun target => fun (value : Value) => do
        store (← placeOf fuel target) value
      match origin with
      | none =>
          match ← nextLine maxInputs with
          | some text => do
              acceptLine true put? text
              return ofInt 1
          | none => return ofInt 0
      | some origin => do
          let path ← textOf (← eval fuel origin)
          match ← takeFrom feed path with
          | none => return ofInt (-1)
          | some none => return ofInt 0
          | some (some text) => do
              acceptLine true put? text
              return ofInt 1
termination_by structural fuel => fuel

/-- Calls a function. A name that has no value yet becomes a table if the function makes one
of it.
-/
def call : Nat → String → List Expr → Step Value
  | 0, _, _ => lift (throw .late)
  | fuel + 1, name, arguments => do
      lift Run.step
      match (← read).program.functions.lookup name with
      | none => return .nothing
      | some function => do
          let memory ← get
          if maxCalls ≤ memory.calls then fail "program limit exceeded: eval stack size=1024"
          let cells ← arguments.mapM fun argument => do
            match argument with
            | .name name =>
                match ← cell name with
                | .table place => return Cell.table place
                | .value _ => return Cell.value (← value name)
            | argument => return Cell.value (← eval fuel argument)
          let cells := cells ++ List.replicate (function.parameters.length - cells.length)
            (Cell.value .nothing)
          let before := (← get).locals
          modify fun memory =>
            { memory with
              locals := function.parameters.zip cells, calls := memory.calls + 1 }
          let result ← tryCatch
            (do
              execAll fuel function.body
              return Value.nothing)
            fun escape =>
              match escape with
              | .giveBack value => return value
              | escape => throw escape
          let after := (← get).locals
          modify fun memory => { memory with locals := before, calls := memory.calls - 1 }
          for (argument, parameter, _) in arguments.zip after do
            match argument, after.lookup parameter with
            | .name name, some (.table place) =>
                match ← cell name with
                | .value .nothing => setCell name (.table place)
                | _ => pure ()
            | _, _ => pure ()
          return result
termination_by structural fuel => fuel

def builtin : Nat → String → List Expr → Step Value
  | 0, _, _ => lift (throw .late)
  | fuel + 1, name, arguments => do
      match name, arguments with
      | "length", [] => return ofInt (← line).length
      | "length", [.name name] =>
          match ← cell name with
          | .table place => return ofInt (← table place).size
          | .value _ => return ofInt (← textOf (← value name)).length
      | "split", text :: .name target :: separator => do
          let text ← textOf (← eval fuel text)
          let pieces ←
            match separator with
            | [] => cutAt (← globalText "FS") false text
            | .pattern pattern :: _ => do
                if text.isEmpty then pure []
                else
                  let expression ← patternOf pattern
                  pure (Pattern.split expression (text.length + 1) text)
            | separator :: _ => do cutAt (← textOf (← eval fuel separator)) false text
          let place ← tableAt target
          setTable place (Table.ofSeries (pieces.map Value.ofInput))
          return ofInt pieces.length
      | "split", _ => fail "line 1: syntax error at or near ,"
      | "sub", arguments | "gsub", arguments => do
          let expression ← expressionOf fuel (arguments.headD (.text []))
          let fill ← textOf (← eval fuel ((arguments.drop 1).headD (.text [])))
          let target := (arguments.drop 2).headD (.field (.number 0))
          let text ← textOf (← eval fuel target)
          let (count, result) :=
            substitute expression (name = "gsub")
              (fun found => replacement found (fill.length + 1) fill) text (text.length + 2) 0
              none 0 []
          if count ≠ 0 then store (← placeOf fuel target) (.text result)
          return ofInt count
      | "match", text :: pattern :: _ => do
          let text ← textOf (← eval fuel text)
          let expression ← expressionOf fuel pattern
          let (start, size) : Int × Int :=
            match Pattern.find? expression 0 text with
            | some (start, size) => (start + 1, size)
            | none => (0, -1)
          setValue "RSTART" (ofInt start)
          setValue "RLENGTH" (ofInt size)
          return ofInt start
      | name, arguments => do
          let values ← arguments.mapM (eval fuel)
          let first := values.headD .nothing
          let second := (values.drop 1).headD .nothing
          match name with
          | "length" => return ofInt (← textOf first).length
          | "substr" => do
              let size? := (values.drop 2).head?.map fun value => wholePart value.toNumber
              return .text (partOf (← textOf first) (wholePart second.toNumber) size?)
          | "index" => return ofInt (startOf (← textOf second) 1 (← textOf first))
          | "sprintf" => do
              let format ← textOf first
              let filled := fillValues name (← numberFormat) format (format.length + 1) 0 [] format
                values.tail
              match filled.problem with
              | some problem => failAt problem
              | none => return .text filled.shown
          | "tolower" => return .text ((← textOf first).map Char.toLower)
          | "toupper" => return .text ((← textOf first).map Char.toUpper)
          | "atan2" => return .number (Float.atan2 first.toNumber second.toNumber)
          | "rand" => do
              let draw := nextSeed (← get).draw
              modify fun memory => { memory with draw }
              return .number (Float.ofNat draw / 2147483648.0)
          | "srand" => do
              let before := (← get).seed
              let seed := (wholePart first.toNumber).toNat
              modify fun memory => { memory with seed, draw := seed }
              return ofInt before
          | "system" => do
              flush
              return ofInt (← runCommand none (← textOf first))
          | "close" => return ofInt (← close (← textOf first))
          | "fflush" => do
              flush
              return ofInt 0
          | name =>
              match numberFunction? name with
              | some reckon => return .number (reckon first.toNumber)
              | none => return .nothing
termination_by structural fuel => fuel

/-- Runs statements one after the other. -/
def execAll : Nat → List Statement → Step Unit
  | 0, _ => lift (throw .late)
  | fuel + 1, body => body.forM (exec fuel)
termination_by structural fuel => fuel

def exec : Nat → Statement → Step Unit
  | 0, _ => lift (throw .late)
  | fuel + 1, statement => do
      match statement with
      | .expr value => do
          let _ ← eval fuel value
      | .print values target => do
          let format ← globalText "OFMT"
          let texts ←
            if values.isEmpty then pure [← line]
            else values.mapM fun value => do return (← eval fuel value).toText format
          let text := (← globalText "OFS").intercalate texts ++ (← globalText "ORS")
          write (← directed fuel target) text
      | .printFormat values target => do
          let values ← values.mapM (eval fuel)
          let format ← textOf (values.headD .nothing)
          let filled := fillValues "printf" (← numberFormat) format (format.length + 1) 0 [] format
            values.tail
          write (← directed fuel target) filled.shown
          match filled.problem with
          | some problem => failAt problem
          | none => pure ()
      | .block body => execAll fuel body
      | .branch test yes no => do
          if (← eval fuel test).isTrue then exec fuel yes
          else
            match no with
            | some no => exec fuel no
            | none => pure ()
      | .whileDo test body =>
          repeatWhile
            (do
              if (← eval fuel test).isTrue then round (exec fuel body) else return false)
            maxRounds
      | .doWhile body test =>
          repeatWhile
            (do
              if ← round (exec fuel body) then return (← eval fuel test).isTrue
              else return false)
            maxRounds
      | .loop start test turn body => do
          match start with
          | some start => exec fuel start
          | none => pure ()
          repeatWhile
            (do
              let goesOn ←
                match test with
                | some test => pure (← eval fuel test).isTrue
                | none => pure true
              if !goesOn then return false
              let isLeft := !(← round (exec fuel body))
              if isLeft then return false
              match turn with
              | some turn => exec fuel turn
              | none => pure ()
              return true)
            maxRounds
      | .each name table body => do
          let keys := (← Step.table (← tableAt table)).spelled
          setTable (← tableAt table) keys
          let _ ← keys.keys.findM? fun key => do
            setValue name (.ofInput key)
            return !(← round (exec fuel body))
      | .next => throw .next
      | .nextFile => throw .nextFile
      | .leaveLoop => throw .leaveLoop
      | .nextRound => throw .nextRound
      | .exit status => do
          match status with
          | some status => do
              let number := wholePart (← eval fuel status).toNumber
              modify fun memory => { memory with status := (number % 256).toNat }
          | none => pure ()
          throw .exit
      | .giveBack value => do
          match value with
          | some value => throw (.giveBack (← eval fuel value))
          | none => throw (.giveBack .nothing)
      | .delete name keys => do
          let place ← tableAt name
          if keys.isEmpty then setTable place Table.empty
          else
            let key ← keyOf fuel keys
            setTable place ((← table place).drop key)
termination_by structural fuel => fuel

/-- Where output goes, with the name of the place. -/
def directed : Nat → Option (Direction × Expr) → Step (Option (Direction × List Char))
  | 0, _ => lift (throw .late)
  | fuel + 1, target => do
      match target with
      | none => return none
      | some (direction, path) => return some (direction, ← textOf (← eval fuel path))
termination_by structural fuel => fuel
end

end MailMerge.Shell.Awk.Step
