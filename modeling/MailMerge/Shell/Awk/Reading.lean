import MailMerge.Shell.Awk.Pattern
import MailMerge.Shell.Awk.Token

/-! How the tokens of a program are read as rules and functions. -/

namespace MailMerge.Shell.Awk

/-- The tokens ahead, and what is open around them. -/
structure Progress where
  tokens : List Placed
  parens : Nat
  braces : Nat
  loops : Nat
  isFunction : Bool
  /-- Whether a rule for lines is being read. -/
  isRule : Bool
  /-- Whether an angle bracket says where output goes. -/
  isPrinting : Bool
  ranges : Nat
  /-- The functions that have been called, with the lines. -/
  calls : List String

abbrev Reader := StateT Progress (Except Fault)

namespace Reader

def ahead : Reader Token :=
  return ((← get).tokens.head?.map Placed.token).getD .finish

def line : Reader Nat :=
  return ((← get).tokens.head?.map Placed.line).getD 1

def failWith {α : Type} (message : String) : Reader α := do
  throw { line := ← line, message, isBare := false }

/-- What is wrong when a token stands where it cannot. -/
def unexpected {α : Type} : Reader α := do
  let progress ← get
  let token ← ahead
  match token with
  | .bad message isBare => throw { line := ← line, message, isBare }
  | .sign ")" =>
      if progress.parens = 0 then failWith "extra ')'"
      else failWith s!"syntax error at or near )"
  | .sign "\x7d" =>
      if progress.parens > 0 then failWith "missing ) near \x7d"
      else if progress.braces = 0 then
        let line ← line
        throw
          { line
            message := s!"extra '\x7d'\nawk: line {line}: syntax error at or near end of line"
            isBare := false }
      else failWith "syntax error at or near \x7d"
  | .finish =>
      if progress.parens > 0 then failWith "missing ) near end of file"
      else if progress.braces > 0 then failWith "missing \x7d near end of file"
      else failWith "syntax error at or near end of file"
  | token =>
      if progress.parens > 0 then failWith s!"missing ) near {token.shown}"
      else failWith s!"syntax error at or near {token.shown}"

def drop : Reader Unit := do
  let token ← ahead
  modify fun progress =>
    { progress with
      tokens := progress.tokens.tail
      parens :=
        match token with
        | .sign "(" => progress.parens + 1
        | .sign ")" => progress.parens - 1
        | _ => progress.parens
      braces :=
        match token with
        | .sign "\x7b" => progress.braces + 1
        | .sign "\x7d" => progress.braces - 1
        | _ => progress.braces }

def seesSign (sign : String) : Reader Bool := do
  match ← ahead with
  | .sign text => return text = sign
  | _ => return false

def seesWord (word : String) : Reader Bool := do
  match ← ahead with
  | .word text => return text = word
  | _ => return false

def takeSign (sign : String) : Reader Bool := do
  if ← seesSign sign then
    drop
    return true
  else return false

def takeWord (word : String) : Reader Bool := do
  if ← seesWord word then
    drop
    return true
  else return false

def expect (sign : String) : Reader Unit := do
  if !(← takeSign sign) then unexpected

def takeName : Reader String := do
  match ← ahead with
  | .name name => do
      drop
      return name
  | _ => unexpected

/-- Skips the ends of lines. -/
def skipLines : Reader Unit :=
  modify fun progress =>
    { progress with
      tokens := progress.tokens.dropWhile fun placed => placed.token matches .lineEnd }

/-- Skips the ends of lines and of statements. -/
def skipEnds : Reader Unit :=
  modify fun progress =>
    { progress with
      tokens := progress.tokens.dropWhile fun placed =>
        placed.token matches .lineEnd | .sign ";" }

/-- Reads something between parentheses or brackets, where angle brackets compare. -/
def inside {α : Type} (read : Reader α) : Reader α := do
  let before := (← get).isPrinting
  modify fun progress => { progress with isPrinting := false }
  let found ← read
  modify fun progress => { progress with isPrinting := before }
  return found

/-! ### Expressions -/

/-- Whether something can be assigned to. -/
def isTarget : Expr → Bool
  | .name _ | .field _ | .entry _ _ => true
  | _ => false

/-- The signs of assignments that also reckon. -/
def updates : List (String × Operator) :=
  [
    ("+=", .add), ("-=", .subtract), ("*=", .multiply), ("/=", .divide), ("%=", .remainder),
    ("^=", .power)
  ]

/-- Operators between values, by how tightly they bind. -/
def comparisons : List (String × Operator) :=
  [
    ("<", .less), ("<=", .atMost), ("==", .equal), ("!=", .unequal), (">=", .atLeast),
    (">", .more)
  ]

def sums : List (String × Operator) :=
  [("+", .add), ("-", .subtract)]

def products : List (String × Operator) :=
  [("*", .multiply), ("/", .divide), ("%", .remainder)]

def operatorAhead? (operators : List (String × Operator)) : Reader (Option Operator) := do
  match ← ahead with
  | .sign text =>
      if text = ">" ∧ (← get).isPrinting then return none else return operators.lookup text
  | _ => return none

/-- Whether a value stands ahead that is appended to the one before. -/
def startsValue : Reader Bool := do
  match ← ahead with
  | .number _ _ | .text _ _ | .name _ | .called _ => return true
  | .word name => return (builtins.lookup name).isSome
  | .sign text => return ["$", "(", "!", "++", "--"].contains text
  | _ => return false

/-- Reads values with operators between them, from the left. -/
def chain (operators : List (String × Operator)) (next : Reader Expr)
    : Nat → Expr → Reader Expr
  | 0, left => return left
  | fuel + 1, left => do
      match ← operatorAhead? operators with
      | some operator => do
          drop
          let right ← next
          chain operators next fuel (.binary operator left right)
      | none => return left

/-- Reads values that are appended to each other. -/
def appended (next : Reader Expr) : Nat → Expr → Reader Expr
  | 0, left => return left
  | fuel + 1, left => do
      if (← startsValue) ∧ !(← seesSign "!") then
        let right ← next
        appended next fuel (.binary .append left right)
      else return left

/-- Reads values that are matched with patterns. -/
def fitted (next : Reader Expr) : Nat → Expr → Reader Expr
  | 0, left => return left
  | fuel + 1, left => do
      if ← takeSign "~" then
        let right ← next
        fitted next fuel (.fits false left right)
      else if ← takeSign "!~" then
        let right ← next
        fitted next fuel (.fits true left right)
      else return left

/-- Reads the tables that values may be keys of. -/
def keyed : Nat → Expr → Reader Expr
  | 0, left => return left
  | fuel + 1, left => do
      if ← takeWord "in" then
        let table ← takeName
        keyed fuel (.isKey table [left])
      else return left

def joined (sign : String) (make : Expr → Expr → Expr) (next : Reader Expr)
    : Nat → Expr → Reader Expr
  | 0, left => return left
  | fuel + 1, left => do
      if ← takeSign sign then
        skipLines
        let right ← next
        joined sign make next fuel (make left right)
      else return left

/-- Reads things with commas between them. -/
def listOf (next : Reader Expr) : Nat → Reader (List Expr)
  | 0 => unexpected
  | fuel + 1 => do
      let first ← next
      if ← takeSign "," then
        skipLines
        return first :: (← listOf next fuel)
      else return [first]

mutual
def expr : Nat → Reader Expr
  | 0 => unexpected
  | fuel + 1 => do
      let left ← choice fuel
      if isTarget left then
        if ← takeSign "=" then
          skipLines
          return .assign left (← expr fuel)
        else
          match ← ahead with
          | .sign text =>
              match updates.lookup text with
              | some operator => do
                  drop
                  skipLines
                  return .update operator left (← expr fuel)
              | none => return left
          | _ => return left
      else return left
termination_by structural fuel => fuel

def choice : Nat → Reader Expr
  | 0 => unexpected
  | fuel + 1 => do
      let both : Reader Expr := do
        let matched : Reader Expr := do
          let compared : Reader Expr := do
            let summed : Reader Expr := do
              let multiplied : Reader Expr := do
                chain products (unary fuel) fuel (← unary fuel)
              chain sums multiplied fuel (← multiplied)
            let strung : Reader Expr := do
              appended summed fuel (← summed)
            chain comparisons strung fuel (← strung)
          fitted compared fuel (← compared)
        let held : Reader Expr := do
          keyed fuel (← matched)
        joined "&&" .both held fuel (← held)
      let test ← joined "||" .either both fuel (← both)
      if ← takeSign "?" then
        skipLines
        let yes ← expr fuel
        skipLines
        expect ":"
        skipLines
        return .choice test yes (← expr fuel)
      else return test
termination_by structural fuel => fuel

def unary : Nat → Reader Expr
  | 0 => unexpected
  | fuel + 1 => do
      if ← takeSign "!" then return .not (← unary fuel)
      else if ← takeSign "-" then return .minus (← unary fuel)
      else if ← takeSign "+" then return .plus (← unary fuel)
      else
        let base ← counted fuel
        if ← takeSign "^" then return .binary .power base (← unary fuel)
        else return base
termination_by structural fuel => fuel

/-- A value that may be counted up or down, and may be a command that lines come from. -/
def counted : Nat → Reader Expr
  | 0 => unexpected
  | fuel + 1 => do
      let base ← primary fuel
      let base ←
        if isTarget base then
          if ← takeSign "++" then pure (.step false true base)
          else if ← takeSign "--" then pure (.step false false base)
          else pure base
        else pure base
      fed fuel base
termination_by structural fuel => fuel

/-- Reads what takes lines from a command. -/
def fed : Nat → Expr → Reader Expr
  | 0, base => return base
  | fuel + 1, base => do
      let takesLine ←
        match (← get).tokens with
        | { token := .sign "|", .. } :: { token := .word "getline", .. } :: _ => pure true
        | _ => pure false
      if takesLine then
        drop
        drop
        let target ← target? fuel
        fed fuel (.line .command (some base) target)
      else return base
termination_by structural fuel => fuel

/-- Something that can be assigned to, if it stands ahead. -/
def target? : Nat → Reader (Option Expr)
  | 0 => return none
  | fuel + 1 => do
      match ← ahead with
      | .name _ | .sign "$" => return some (← primary fuel)
      | _ => return none
termination_by structural fuel => fuel

def primary : Nat → Reader Expr
  | 0 => unexpected
  | fuel + 1 => do
      match ← ahead with
      | .number value _ => do
          drop
          return .number value
      | .text value _ => do
          drop
          return .text value
      | .pattern text => do
          match Pattern.read? text with
          | .ok _ => pure ()
          | .error problem =>
              let shown := String.ofList text
              failWith s!"regular expression compile failed ({problem})\n{shown}"
          drop
          return .pattern text
      | .name name => do
          drop
          if ← seesSign "[" then
            drop
            let keys ← inside (listOf (expr fuel) fuel)
            expect "]"
            return .entry name keys
          else return .name name
      | .called name => do
          drop
          modify fun progress => { progress with calls := name :: progress.calls }
          return .call name (← arguments fuel)
      | .word "getline" => do
          drop
          let target ← target? fuel
          if ← takeSign "<" then return .line .file (some (← counted fuel)) target
          else return .line .input none target
      | .word name =>
          match builtins.lookup name with
          | none => unexpected
          | some (least, most) => do
              drop
              let hasList ← seesSign "("
              if name = "length" ∧ !hasList then return .builtin name []
              else
                let arguments ← arguments fuel
                if arguments.length < least ∨ most < arguments.length then
                  failWith s!"wrong number of arguments in call to {name}"
                return .builtin name arguments
      | .sign "$" => do
          drop
          match ← ahead with
          | .sign "++" | .sign "--" | .sign "-" | .sign "+" | .sign "!" =>
              return .field (← unary fuel)
          | _ => return .field (← primary fuel)
      | .sign "++" => do
          drop
          return .step true true (← primary fuel)
      | .sign "--" => do
          drop
          return .step true false (← primary fuel)
      | .sign "(" => do
          drop
          let keys ← inside (listOf (expr fuel) fuel)
          expect ")"
          match keys with
          | [body] => return .group body
          | keys =>
              if ← takeWord "in" then return .isKey (← takeName) keys
              else unexpected
      | _ => unexpected
termination_by structural fuel => fuel

def arguments : Nat → Reader (List Expr)
  | 0 => unexpected
  | fuel + 1 => do
      expect "("
      skipLines
      if ← takeSign ")" then return []
      else
        let found ← inside (listOf (do skipLines; let value ← expr fuel; skipLines; return value) fuel)
        expect ")"
        return found
termination_by structural fuel => fuel
end

/-! ### Statements -/

/-- Ends a simple statement. -/
def endStatement : Reader Unit := do
  match ← ahead with
  | .sign ";" => do
      drop
      skipLines
  | .lineEnd => skipLines
  | .sign "\x7d" => pure ()
  | _ => unexpected

/-- Whether the list of what is printed can end here. -/
def endsList : Reader Bool := do
  match ← ahead with
  | .lineEnd | .finish => return true
  | .sign text => return [";", "\x7d", ">", ">>", "|"].contains text
  | _ => return false

/-- Reads what is printed: a list, which may stand in parentheses. -/
def printed (fuel : Nat) : Reader (List Expr) := do
  if ← endsList then return []
  let before ← get
  let bracketed : Reader (Option (List Expr)) := do
    drop
    let values ← inside do
      if ← seesSign ")" then return []
      listOf (expr fuel) fuel
    expect ")"
    return if ← endsList then some values else none
  let found? ←
    if ← seesSign "(" then tryCatch bracketed (fun _ => return none) else pure none
  match found? with
  | some values => return values
  | none => do
      set before
      modify fun progress => { progress with isPrinting := true }
      let values ← listOf (expr fuel) fuel
      modify fun progress => { progress with isPrinting := false }
      return values

def direction (fuel : Nat) : Reader (Option (Direction × Expr)) := do
  if ← takeSign ">" then return some (.replace, ← expr fuel)
  else if ← takeSign ">>" then return some (.append, ← expr fuel)
  else if ← takeSign "|" then return some (.command, ← expr fuel)
  else return none

/-- A statement that holds no other ones, without its end. -/
def simple (fuel : Nat) : Reader Statement := do
  match ← ahead with
  | .word "print" => do
      drop
      let values ← printed fuel
      return .print values (← direction fuel)
  | .word "printf" => do
      drop
      let values ← printed fuel
      if values.isEmpty then failWith "no arguments in call to printf"
      return .printFormat values (← direction fuel)
  | .word "delete" => do
      drop
      let hasParen ← takeSign "("
      let table ← takeName
      let keys ←
        if ← takeSign "[" then
          let keys ← inside (listOf (expr fuel) fuel)
          expect "]"
          pure keys
        else pure []
      if hasParen then expect ")"
      return .delete table keys
  | _ => return .expr (← expr fuel)

/-- Reads a loop's body. -/
def inLoop {α : Type} (read : Reader α) : Reader α := do
  modify fun progress => { progress with loops := progress.loops + 1 }
  let found ← read
  modify fun progress => { progress with loops := progress.loops - 1 }
  return found

mutual
def statement : Nat → Reader Statement
  | 0 => unexpected
  | fuel + 1 => do
      match ← ahead with
      | .sign "\x7b" => do
          let body ← block fuel
          return .block body
      | .sign ";" => do
          drop
          skipLines
          return .block []
      | .word "if" => do
          drop
          expect "("
          let test ← inside (expr fuel)
          expect ")"
          skipLines
          let yes ← statement fuel
          let before ← get
          skipEnds
          if ← takeWord "else" then
            skipLines
            return .branch test yes (some (← statement fuel))
          else
            set before
            return .branch test yes none
      | .word "while" => do
          drop
          expect "("
          let test ← inside (expr fuel)
          expect ")"
          if ← takeSign ";" then
            skipLines
            return .whileDo test (.block [])
          else
            skipLines
            return .whileDo test (← inLoop (statement fuel))
      | .word "do" => do
          drop
          skipLines
          let body ← inLoop (statement fuel)
          skipEnds
          if !(← takeWord "while") then unexpected
          expect "("
          let test ← inside (expr fuel)
          expect ")"
          endStatement
          return .doWhile body test
      | .word "for" => do
          drop
          expect "("
          match (← get).tokens with
          | { token := .name name, .. } :: { token := .word "in", .. }
              :: { token := .name table, .. } :: { token := .sign ")", .. } :: _ => do
              drop
              drop
              drop
              drop
              skipLines
              return .each name table (← inLoop (statement fuel))
          | _ => do
              let start ← if ← seesSign ";" then pure none else some <$> simple fuel
              expect ";"
              skipLines
              let test ← if ← seesSign ";" then pure none else some <$> inside (expr fuel)
              expect ";"
              skipLines
              let step ← if ← seesSign ")" then pure none else some <$> simple fuel
              expect ")"
              if ← takeSign ";" then
                skipLines
                return .loop start test step (.block [])
              else
                skipLines
                return .loop start test step (← inLoop (statement fuel))
      | .word "next" => do
          if !(← get).isRule then failWith "improper use of next"
          drop
          endStatement
          return .next
      | .word "nextfile" => do
          if !(← get).isRule then failWith "improper use of nextfile"
          drop
          endStatement
          return .nextFile
      | .word "break" => do
          if (← get).loops = 0 then failWith "break statement outside of loop"
          drop
          endStatement
          return .leaveLoop
      | .word "continue" => do
          if (← get).loops = 0 then failWith "continue statement outside of loop"
          drop
          endStatement
          return .nextRound
      | .word "exit" => do
          drop
          let status ← if ← endsList then pure none else some <$> expr fuel
          endStatement
          return .exit status
      | .word "return" => do
          if !(← get).isFunction then failWith "return outside function body"
          drop
          let value ← if ← endsList then pure none else some <$> expr fuel
          endStatement
          return .giveBack value
      | _ => do
          let found ← simple fuel
          endStatement
          return found
termination_by structural fuel => fuel

/-- Statements between braces. -/
def block : Nat → Reader (List Statement)
  | 0 => unexpected
  | fuel + 1 => do
      expect "\x7b"
      let body ← statements fuel
      expect "\x7d"
      let before ← get
      skipEnds
      if !(← seesWord "else") then
        set before
        skipLines
      return body
termination_by structural fuel => fuel

def statements : Nat → Reader (List Statement)
  | 0 => unexpected
  | fuel + 1 => do
      skipEnds
      if ← seesSign "\x7d" then return []
      else
        let first ← statement fuel
        return first :: (← statements fuel)
termination_by structural fuel => fuel
end

/-! ### Programs -/

def parameters : Nat → Reader (List String)
  | 0 => unexpected
  | fuel + 1 => do
      if ← takeSign ")" then return []
      else
        let name ← takeName
        if ← takeSign "," then
          skipLines
          return name :: (← parameters fuel)
        else
          expect ")"
          return [name]

def function (fuel : Nat) : Reader (String × Function) := do
  let name ←
    match ← ahead with
    | .called name | .name name => do
        drop
        pure name
    | _ => unexpected
  expect "("
  let parameters ← parameters fuel
  skipLines
  modify fun progress => { progress with isFunction := true, isRule := false }
  let body ← block fuel
  modify fun progress => { progress with isFunction := false }
  return (name, { parameters, body })

/-- The action of a rule. One that is not there prints the line. -/
def action (fuel : Nat) (isNeeded : Bool) : Reader (List Statement) := do
  if isNeeded ∨ (← seesSign "\x7b") then block fuel
  else return [.print [] none]

def rule (fuel : Nat) : Reader Rule := do
  let isEdge := (← seesWord "BEGIN") || (← seesWord "END")
  modify fun progress => { progress with isRule := !isEdge }
  if ← takeWord "BEGIN" then return { condition := .first, action := ← action fuel true }
  else if ← takeWord "END" then return { condition := .last, action := ← action fuel true }
  else if ← seesSign "\x7b" then
    return { condition := .always, action := ← action fuel true }
  else
    let test ← expr fuel
    if ← takeSign "," then
      skipLines
      let closing ← expr fuel
      let number := (← get).ranges
      modify fun progress => { progress with ranges := number + 1 }
      return { condition := .between number test closing, action := ← action fuel false }
    else return { condition := .holds test, action := ← action fuel false }

/-- Rules and functions up to the end. -/
def items (fuel : Nat) : Nat → Program → Reader Program
  | 0, program => return program
  | count + 1, program => do
      skipEnds
      match ← ahead with
      | .finish =>
          return { rules := program.rules.reverse, functions := program.functions.reverse }
      | .word "function" | .word "func" => do
          drop
          let found ← function fuel
          items fuel count { program with functions := found :: program.functions }
      | _ => do
          let found ← rule fuel
          match ← ahead with
          | .sign ";" | .lineEnd | .finish | .sign "\x7b" | .word _ | .name _ | .sign _
          | .pattern _ | .called _ | .number _ _ | .text _ _ | .bad _ _ =>
              items fuel count { program with rules := found :: program.rules }

end Reader

/-- Reads a program, or says what is wrong with it. -/
def readProgram (text : List Char) : Except Fault Program := do
  let tokens := tokens text
  let size := tokens.length
  let (program, after) ←
    (Reader.items (16 * size + 64) (size + 1) { rules := [], functions := [] }).run
      {
        tokens
        parens := 0
        braces := 0
        loops := 0
        isFunction := false
        isRule := false
        isPrinting := false
        ranges := 0
        calls := []
      }
  match after.calls.reverse.find? fun name => (program.functions.lookup name).isNone with
  | some name =>
      let line := (tokens.getLast?.map Placed.line).getD 1
      throw { line, message := s!"function {name} never defined", isBare := false }
  | none => return program

end MailMerge.Shell.Awk
