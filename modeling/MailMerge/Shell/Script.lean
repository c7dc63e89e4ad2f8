import MailMerge.Pairs
import MailMerge.Shell.Syntax

/-! Reading scripts. A script is read line by line, as far as the commands on a line go on;
what is wrong is told with the line where reading stopped. The text of a document inside
the script follows the line that announces it.
-/

namespace MailMerge.Shell

/-- Why a script cannot be read on. -/
structure SyntaxFault where
  line : Nat
  message : String
  deriving DecidableEq, Repr

inductive Token where
  | word (parts : Word) (isQuoted : Bool)
  /-- A redirection operator with its channel. -/
  | redirect (channel : Nat) (sign : String)
  | sign (text : String)
  | keyword (text : String)
  | lineEnd
  | finish

/-- A document that has been announced, with the line that ends it. -/
structure Announcement where
  number : Nat
  delimiter : List Char
  isQuoted : Bool
  stripsTabs : Bool

/-- The text of a script ahead, and what has been read of it. -/
structure Source where
  rest : List Char
  line : Nat
  pushed : Option Token
  announced : List Announcement
  documents : List (Nat × Word)
  nextDocument : Nat
  /-- Texts that stand for the first words of commands. -/
  aliases : List (String × String)
  /-- The words whose texts are being read, with the length of the script behind those. -/
  resolved : List (String × Nat)

abbrev Reader := StateT Source (Except SyntaxFault)

def fault {α : Type} (message : String) : Reader α := do
  throw { line := (← get).line, message }

/-! ### Characters -/

/-- Leaves out line ends that a backslash stands in front of. -/
def joinedLines : List Char → Nat → List Char × Nat
  | '\\' :: '\n' :: cs, joins => joinedLines cs (joins + 1)
  | cs, joins => (cs, joins)

def joinLinesAhead : Reader Unit :=
  modify fun source =>
    let (rest, joins) := joinedLines source.rest 0
    { source with rest, line := source.line + joins }

/-- The character ahead. -/
def lookAhead : Reader (Option Char) := do
  joinLinesAhead
  return (← get).rest.head?

/-- Takes characters off the text. -/
def takeChars (count : Nat) : Reader Unit :=
  modify fun source =>
    { source with
      rest := source.rest.drop count
      line := source.line + (source.rest.take count).count '\n' }

/-- Takes characters as long as they satisfy a test. -/
def takeRun (test : Char → Bool) : Reader (List Char) := do
  let run := (← get).rest.takeWhile test
  takeChars run.length
  return run

/-! ### Words -/

/-- What stands around a part of a word. -/
inductive Mode where
  | bare
  /-- The word that ends a document, in which nothing is expanded. -/
  | delimiter
  | quoted
  | document (delimiter : List Char) (stripsTabs : Bool)
  | arithmetic (depth : Nat)
  deriving DecidableEq, Repr

def Mode.isBare : Mode → Bool
  | bare | delimiter => true
  | _ => false

/-- Whether expansions are quoted. -/
def Mode.isQuoted (mode : Mode) : Bool :=
  !mode.isBare

def Mode.isDocument : Mode → Bool
  | document .. => true
  | _ => false

/-- The mode of a word within braces. -/
def Mode.inner : Mode → Mode
  | arithmetic _ => quoted
  | mode => mode

/-- Characters that stand for themselves. -/
def isOrdinary (mode : Mode) (inBrace : Bool) (c : Char) : Bool :=
  match mode with
  | .bare =>
      (inBrace || !endsWord c) && !"\\\x27\x22$\x60".toList.contains c
        && !(inBrace && c = '\x7d')
  | .delimiter => !endsWord c && !"\\\x27\x22".toList.contains c
  | .quoted => !"\\\x22$\x60".toList.contains c && !(inBrace && c = '\x7d')
  | .document .. =>
      !"\\$\x60\n".toList.contains c && !(inBrace && (c = '\x7d' || c = '\x22'))
  | .arithmetic _ => !"\\$\x60()".toList.contains c

/-- Whether a character ends the parts of a word. -/
def endsParts (mode : Mode) (inBrace : Bool) (c : Char) : Bool :=
  if inBrace then c = '\x7d'
  else
    match mode with
    | .bare | .delimiter => endsWord c
    | .quoted => c = '\x22'
    | _ => false

/-- What is wrong where the text ends within a word; nothing if it may. -/
def openMessage? (mode : Mode) (inBrace : Bool) : Option String :=
  match mode with
  | .bare | .delimiter | .document .. => if inBrace then some "Missing '\x7d'" else none
  | .quoted => some "Unterminated quoted string"
  | .arithmetic _ => some "Missing '))'"

/-- Whether a backslash takes the meaning off a character. -/
def isEscapable (mode : Mode) (inBrace : Bool) (c : Char) : Bool :=
  mode.isBare || "\\\x60$".toList.contains c
    || (c = '\x22' && (!mode.isDocument || inBrace)) || (c = '\x7d' && inBrace)

/-- Puts a text in front of parts. -/
def consText (text : List Char) (isQuoted : Bool) (parts : Word) : Word :=
  match parts with
  | .text more isQuoted' :: rest =>
      if isQuoted = isQuoted' then .text (String.ofList text ++ more) isQuoted :: rest
      else .text (String.ofList text) isQuoted :: parts
  | _ => .text (String.ofList text) isQuoted :: parts

/-- Cuts a text at the next mark, with backslashes taken off the characters that they take
the meaning off.
-/
def cutBackquote (isQuoted : Bool) : List Char → Option (List Char × List Char)
  | [] => none
  | '\x60' :: cs => some ([], cs)
  | '\\' :: '\n' :: cs => cutBackquote isQuoted cs
  | '\\' :: c :: cs =>
      (cutBackquote isQuoted cs).map fun (inside, rest) =>
        if "\\\x60$".toList.contains c ∨ (isQuoted ∧ c = '\x22') then (c :: inside, rest)
        else ('\\' :: c :: inside, rest)
  | c :: cs => (cutBackquote isQuoted cs).map fun (inside, rest) => (c :: inside, rest)

/-- Takes the line that ends a document, if it stands ahead. -/
def takeDelimiter (delimiter : List Char) (stripsTabs : Bool) : Reader Bool := do
  if stripsTabs then
    let _ ← takeRun (· = '\t')
  let rest := (← get).rest
  let behind := rest.drop delimiter.length
  if rest = [] then return true
  else if rest.take delimiter.length = delimiter ∧ behind.head?.all (· = '\n') then
    takeChars (delimiter.length + 1)
    return true
  else return false

/-- Reads the lines of a document as they stand. -/
def verbatim (delimiter : List Char) (stripsTabs : Bool) : Nat → Reader (List Char)
  | 0 => fault "document too long"
  | fuel + 1 => do
      if ← takeDelimiter delimiter stripsTabs then return []
      let line ← takeRun (· ≠ '\n')
      let ending := (← get).rest.take 1
      takeChars 1
      return line ++ ending ++ (← verbatim delimiter stripsTabs fuel)

/-! ### Tokens -/

def tokenName : Token → String
  | .word .. => "word"
  | .redirect .. => "redirection"
  | .sign text | .keyword text => "\"" ++ text ++ "\""
  | .lineEnd => "newline"
  | .finish => "end of file"

/-- Refuses a token. -/
def refuse {α : Type} (token : Token) : Reader α :=
  fault (tokenName token ++ " unexpected")

/-- Refuses a token where another one has to stand. -/
def refuseFor {α : Type} (token : Token) (text : String) : Reader α :=
  fault (tokenName token ++ " unexpected (expecting \"" ++ text ++ "\")")

def push (token : Token) : Reader Unit :=
  modify fun source => { source with pushed := some token }

def Token.isSign (token : Token) (text : String) : Bool :=
  match token with
  | sign found => found = text
  | _ => false

def Token.isKeyword (token : Token) (text : String) : Bool :=
  match token with
  | keyword found => found = text
  | _ => false

/-- Tokens that end a list of commands. -/
def Token.endsList : Token → Bool
  | finish => true
  | sign text => [")", ";;"].contains text
  | keyword text =>
      ["do", "done", "elif", "else", "esac", "fi", "then", "\x7d"].contains text
  | _ => false

/-- The operators, longer ones first. -/
def operators : List String :=
  ["&&", "||", ";;", "&", "|", ";", "(", ")"]

/-- The operators of redirections, longer ones first. -/
def redirectOperators : List String :=
  ["<<-", "<<", "<&", "<>", "<", ">>", ">&", ">|", ">"]

/-- Takes one of some operators, if it stands ahead. -/
def takeOperator (among : List String) : Reader (Option String) := do
  joinLinesAhead
  let rest := (← get).rest
  match among.find? fun sign => sign.toList.isPrefixOf rest with
  | some sign => do
      takeChars sign.length
      return some sign
  | none => return none

/-- The text of a word without its quoting. -/
def Part.bareText : Part → String
  | .text content _ => content
  | _ => ""

/-- A word that is one name of the language. -/
def keyword? : Token → Option String
  | .word [.text text false] false => if keywords.contains text then some text else none
  | _ => none

/-- The text that a word stands for where a command begins, with the word. -/
def Source.aliasOf? (source : Source) : Token → Option (String × String)
  | .word [.text text false] false =>
      match source.aliases.lookup text with
      | none => none
      | some value =>
          let isWithin : Bool := source.resolved.any fun (name, behind) =>
            name = text && behind < source.rest.length
          if isWithin then none else some (text, value)
  | _ => none

/-- A setting of a variable, if a word is one. -/
def setting? : Word → Option (String × Word)
  | .text text false :: parts =>
      let name := text.toList.takeWhile isNameChar
      match text.toList.drop name.length with
      | '=' :: value =>
          if name.head?.any isNameStart then
            some (String.ofList name,
              if value = [] then parts else .text (String.ofList value) false :: parts)
          else none
      | _ => none
  | _ => none

/-- The name that a word spells, if it is a plain name. -/
def plainName? : Token → Option String
  | .word [.text text false] false => if isName text then some text else none
  | _ => none

/-- Commands whose names cannot be given to other commands. -/
def reservedNames : List String :=
  [
    ".", ":", "break", "continue", "eval", "exec", "exit", "export", "local", "readonly",
    "return", "set", "shift", "times", "trap", "unset"
  ]

/-- What a list of commands is a part of: a line of the script, the inside of a compound
command, or a place where there may be none.
-/
inductive Role where
  | line
  | body
  | optional
  deriving DecidableEq, Repr

mutual
/-- Reads the parts of a word up to the character that ends them, and tells whether some
are quoted.
-/
def parts (mode : Mode) (inBrace : Bool) : Nat → Reader (Word × Bool)
  | 0 => fault "word too long"
  | fuel + 1 => do
      joinLinesAhead
      let run ← takeRun (isOrdinary mode inBrace)
      if run ≠ [] then
        let (rest, isQuoted) ← parts mode inBrace fuel
        return (consText run mode.isQuoted rest, isQuoted)
      match ← lookAhead with
      | none =>
          match openMessage? mode inBrace with
          | some message => fault message
          | none => return ([], false)
      | some c => do
          if endsParts mode inBrace c then return ([], false)
          takeChars 1
          match c, mode with
          | '\\', _ => do
              let escaped := (← get).rest.head?
              takeChars 1
              let text :=
                match escaped with
                | none => ['\\']
                | some c => if isEscapable mode inBrace c then [c] else ['\\', c]
              let (rest, _) ← parts mode inBrace fuel
              return (consText text true rest, true)
          | '$', _ => do
              let part ← dollar mode fuel
              let (rest, isQuoted) ← parts mode inBrace fuel
              match part with
              | .text text isQuoted' => return (consText text.toList isQuoted' rest, isQuoted)
              | part => return (part :: rest, isQuoted)
          | '\x60', _ => do
              let part ← backquote mode fuel
              let (rest, isQuoted) ← parts mode inBrace fuel
              return (part :: rest, isQuoted)
          | '\x27', .bare | '\x27', .delimiter => do
              let inside ← takeRun (· ≠ '\x27')
              if (← get).rest = [] then fault "Unterminated quoted string"
              takeChars 1
              let (rest, _) ← parts mode inBrace fuel
              return (consText inside true rest, true)
          | '\x22', _ => do
              let (inside, _) ← parts .quoted false fuel
              takeChars 1
              let (rest, _) ← parts mode inBrace fuel
              let inside := if inside.isEmpty then consText [] true inside else inside
              return (inside ++ rest, true)
          | '\n', .document delimiter stripsTabs => do
              if ← takeDelimiter delimiter stripsTabs then
                return (consText ['\n'] true [], false)
              let (rest, isQuoted) ← parts mode inBrace fuel
              return (consText ['\n'] true rest, isQuoted)
          | '(', .arithmetic depth => do
              let (rest, isQuoted) ← parts (.arithmetic (depth + 1)) inBrace fuel
              return (consText ['('] true rest, isQuoted)
          | ')', .arithmetic (depth + 1) => do
              let (rest, isQuoted) ← parts (.arithmetic depth) inBrace fuel
              return (consText [')'] true rest, isQuoted)
          | ')', .arithmetic 0 => do
              if (← lookAhead) = some ')' then
                takeChars 1
                return ([], false)
              let (rest, isQuoted) ← parts mode inBrace fuel
              return (consText [')'] true rest, isQuoted)
          | _, _ => do
              let (rest, isQuoted) ← parts mode inBrace fuel
              return (consText [c] mode.isQuoted rest, isQuoted)
termination_by structural fuel => fuel

/-- Reads what stands behind a dollar sign. -/
def dollar (mode : Mode) : Nat → Reader Part
  | 0 => fault "word too long"
  | fuel + 1 => do
      match ← lookAhead with
      | none => return .text "$" mode.isQuoted
      | some c =>
          if c = '(' then do
            takeChars 1
            if (← lookAhead) = some '(' then
              takeChars 1
              let (expression, _) ← parts (.arithmetic 0) false fuel
              return .arithmetic expression mode.isQuoted
            else return .output (← enclosed fuel) mode.isQuoted
          else if c = '\x7b' then do
            takeChars 1
            let (name, form) ← braced mode fuel
            return .parameter name form mode.isQuoted
          else if isNameStart c then do
            let name ← takeRun isNameChar
            return .parameter (String.ofList name) .value mode.isQuoted
          else if isSpecialParameter c ∨ c.isDigit then do
            takeChars 1
            return .parameter (String.singleton c) .value mode.isQuoted
          else return .text "$" mode.isQuoted
termination_by structural fuel => fuel

/-- Reads the commands behind a dollar sign and an opening parenthesis. -/
def enclosed : Nat → Reader (Option Command)
  | 0 => fault "script too long"
  | fuel + 1 => do
      let outer := (← get).announced
      modify fun source => { source with announced := [] }
      let body ← list .optional fuel
      let closing ← token false false fuel
      if !closing.isSign ")" then refuseFor closing ")"
      documents fuel
      modify fun source => { source with announced := outer, pushed := none }
      return body
termination_by structural fuel => fuel

/-- Reads commands between backquotes. -/
def backquote (mode : Mode) : Nat → Reader Part
  | 0 => fault "script too long"
  | fuel + 1 => do
      let source ← get
      match cutBackquote mode.isQuoted source.rest with
      | none => do
          takeChars source.rest.length
          fault "EOF in backquote substitution"
      | some (inside, rest) => do
          takeChars (source.rest.length - rest.length)
          let after ← get
          set { source with rest := inside, line := 1, pushed := none, announced := [] }
          let body ← list .optional fuel
          let inner ← get
          set { after with documents := inner.documents, nextDocument := inner.nextDocument }
          return .output body mode.isQuoted
termination_by structural fuel => fuel

/-- Reads a parameter and its use behind an opening brace. -/
def braced (mode : Mode) : Nat → Reader (String × Form)
  | 0 => fault "word too long"
  | fuel + 1 => do
      joinLinesAhead
      match (← get).rest with
      | '#' :: '\x7d' :: _ => do takeChars 2; return ("#", .value)
      | '#' :: c :: rest =>
          if isNameChar c then do
            takeChars 1
            let name ← takeRun (if c.isDigit then Char.isDigit else isNameChar)
            if (← lookAhead) = some '\x7d' then
              takeChars 1
              return (String.ofList name, .length)
            else malformed fuel
          else if isSpecialParameter c ∧ rest.head? = some '\x7d' then do
            takeChars 3
            return (String.singleton c, .length)
          else do
            takeChars 1
            use "#" mode fuel
      | c :: _ =>
          if isNameStart c then do
            let name ← takeRun isNameChar
            use (String.ofList name) mode fuel
          else if c.isDigit then do
            let name ← takeRun Char.isDigit
            use (String.ofList name) mode fuel
          else if isSpecialParameter c then do
            takeChars 1
            use (String.singleton c) mode fuel
          else malformed fuel
      | [] => malformed fuel
termination_by structural fuel => fuel

/-- Reads on to the closing brace of an expansion that has no meaning. -/
def malformed : Nat → Reader (String × Form)
  | 0 => fault "word too long"
  | fuel + 1 => do
      let _ ← parts .bare true fuel
      takeChars 1
      return ("", .malformed)
termination_by structural fuel => fuel

/-- Reads the use of a parameter up to the closing brace. -/
def use (name : String) (mode : Mode) : Nat → Reader (String × Form)
  | 0 => fault "word too long"
  | fuel + 1 => do
      joinLinesAhead
      let rest := (← get).rest
      let isForEmpty : Bool := rest.head? = some ':'
      let rest := if isForEmpty then rest.tail else rest
      let size := if isForEmpty then 2 else 1
      let fallback (kind : Fallback) : Reader (String × Form) := do
        takeChars size
        let (word, _) ← parts mode.inner true fuel
        takeChars 1
        return (name, .fallback kind isForEmpty word)
      let strip (isPrefix isLongest : Bool) : Reader (String × Form) := do
        takeChars (if isLongest then 2 else 1)
        let (pattern, _) ← parts .bare true fuel
        takeChars 1
        return (name, .strip isPrefix isLongest pattern)
      match isForEmpty, rest with
      | _, '\x7d' :: _ => do takeChars size; return (name, .value)
      | _, '-' :: _ => fallback .use
      | _, '=' :: _ => fallback .assign
      | _, '?' :: _ => fallback .complain
      | _, '+' :: _ => fallback .instead
      | false, '#' :: '#' :: _ => strip true true
      | false, '#' :: _ => strip true false
      | false, '%' :: '%' :: _ => strip false true
      | false, '%' :: _ => strip false false
      | _, _ => malformed fuel
termination_by structural fuel => fuel

/-- Reads the documents that have been announced. -/
def documents : Nat → Reader Unit
  | 0 => fault "script too long"
  | fuel + 1 => do
      match (← get).announced with
      | [] => return
      | found :: rest => do
          modify fun source => { source with announced := rest }
          let size := (← get).rest.length + 1
          let content ←
            if found.isQuoted then do
              let text ← verbatim found.delimiter found.stripsTabs size
              pure [Part.text (String.ofList text) true]
            else if ← takeDelimiter found.delimiter found.stripsTabs then pure []
            else do
              let (content, _) ← parts (.document found.delimiter found.stripsTabs) false fuel
              pure content
          modify fun source =>
            { source with documents := Pairs.assign found.number content source.documents }
          documents fuel
termination_by structural fuel => fuel

/-- Reads the token ahead without looking at its meaning. -/
def rawToken : Nat → Reader Token
  | 0 => fault "script too long"
  | fuel + 1 => do
      let source ← get
      match source.pushed with
      | some token => do
          set { source with pushed := none }
          return token
      | none => do
          match ← lookAhead with
          | none => return .finish
          | some ' ' | some '\t' => do takeChars 1; rawToken fuel
          | some '#' => do
              let _ ← takeRun (· ≠ '\n')
              rawToken fuel
          | some '\n' => do takeChars 1; return .lineEnd
          | some c => do
              match ← takeOperator operators with
              | some sign => return .sign sign
              | none => do
                  let (word, isQuoted) ←
                    if c = '<' ∨ c = '>' then pure ([], false) else parts .bare false fuel
                  let channel? : Option (Option Nat) :=
                    match word, isQuoted with
                    | [], false => some none
                    | [.text text false], false =>
                        if text.length = 1 ∧ text.toList.all Char.isDigit then
                          some text.toNat?
                        else none
                    | _, _ => none
                  match channel? with
                  | none => return .word word isQuoted
                  | some channel => do
                      match ← takeOperator redirectOperators with
                      | none => return .word word isQuoted
                      | some sign =>
                          let usual := if sign.startsWith "<" then 0 else 1
                          return .redirect (channel.getD usual) sign
termination_by structural fuel => fuel

/-- Reads the token ahead. Line ends may be passed over, and words may be keywords. -/
def token (skipsLines knowsKeywords : Bool) : Nat → Reader Token
  | 0 => fault "script too long"
  | fuel + 1 => do
      match skipsLines, ← rawToken fuel with
      | true, .lineEnd => do
          documents fuel
          token true knowsKeywords fuel
      | _, found =>
          match if knowsKeywords then keyword? found else none with
          | some text => return .keyword text
          | none => do
              let source ← get
              match source.aliasOf? found, knowsKeywords with
              | some (name, text), true => do
                  set
                    { source with
                      rest := text.toList ++ ' ' :: source.rest
                      resolved := (name, source.rest.length) :: source.resolved }
                  token skipsLines knowsKeywords fuel
              | _, _ => return found
termination_by structural fuel => fuel

/-- Commands one after the other. Tells none where there are none. -/
def list (role : Role) : Nat → Reader (Option Command)
  | 0 => fault "script too long"
  | fuel + 1 => do
      let first ← token (role ≠ .line) true fuel
      match first with
      | .lineEnd => do
          documents fuel
          return none
      | .finish => do
          documents fuel
          push .finish
          return none
      | first => do
          push first
          if role = .optional ∧ first.endsList then return none
          let command ← conditions (← pipeline fuel) fuel
          let behind ← token false false fuel
          let command := if behind.isSign "&" then .background command else command
          let isOver : Bool := !(behind.isSign "&" || behind.isSign ";")
          match isOver, behind with
          | true, .finish | true, .lineEnd => do
              push behind
              more role command fuel
          | true, _ => do
              if role = .line then refuse behind
              push behind
              return some command
          | false, _ => more role command fuel
termination_by structural fuel => fuel

/-- The commands behind one. -/
def more (role : Role) (command : Command) : Nat → Reader (Option Command)
  | 0 => fault "script too long"
  | fuel + 1 => do
      let rest ← list (if role = .body then .optional else role) fuel
      return some (rest.elim command (.sequence command))
termination_by structural fuel => fuel

/-- Pipelines joined by conditions to the ones in front. -/
def conditions (first : Command) : Nat → Reader Command
  | 0 => fault "script too long"
  | fuel + 1 => do
      let sign ← token false false fuel
      if sign.isSign "&&" ∨ sign.isSign "||" then
        push (← token true true fuel)
        let second ← pipeline fuel
        conditions (if sign.isSign "&&" then .both first second else .either first second) fuel
      else
        push sign
        return first
termination_by structural fuel => fuel

def pipeline : Nat → Reader Command
  | 0 => fault "script too long"
  | fuel + 1 => do
      let first ← token false true fuel
      if first.isKeyword "!" then
        push (← token false true fuel)
        return .negated (← stages fuel)
      else
        push first
        stages fuel
termination_by structural fuel => fuel

def stages : Nat → Reader Command
  | 0 => fault "script too long"
  | fuel + 1 => do
      let first ← command fuel
      let rest ← moreStages fuel
      return if rest.isEmpty then first else .pipeline (first :: rest)
termination_by structural fuel => fuel

def moreStages : Nat → Reader (List Command)
  | 0 => fault "script too long"
  | fuel + 1 => do
      let sign ← token false false fuel
      if sign.isSign "|" then
        push (← token true true fuel)
        let next ← command fuel
        return next :: (← moreStages fuel)
      else
        push sign
        return []
termination_by structural fuel => fuel

/-- Takes a keyword that has to stand ahead. -/
def expect (text : String) : Nat → Reader Unit
  | 0 => fault "script too long"
  | fuel + 1 => do
      let found ← token false true fuel
      if !found.isKeyword text then refuseFor found text
termination_by structural fuel => fuel

/-- Commands that have to be there. -/
def body : Nat → Reader Command
  | 0 => fault "script too long"
  | fuel + 1 => do
      match ← list .body fuel with
      | some command => return command
      | none => return default
termination_by structural fuel => fuel

def command : Nat → Reader Command
  | 0 => fault "script too long"
  | fuel + 1 => do
      let line := (← get).line
      let first ← token false true fuel
      match first with
      | .word .. | .redirect .. => do
          push first
          simple line fuel
      | .sign "(" => do
          let inside ← body fuel
          let closing ← token false true fuel
          if !closing.isSign ")" then refuseFor closing ")"
          redirected line (.subshell inside) fuel
      | .keyword "\x7b" => do
          let inside ← body fuel
          expect "\x7d" fuel
          redirected line inside fuel
      | .keyword "if" => do
          let inside ← branch fuel
          redirected line inside fuel
      | .keyword "while" => do
          let inside ← loop true fuel
          redirected line inside fuel
      | .keyword "until" => do
          let inside ← loop false fuel
          redirected line inside fuel
      | .keyword "for" => do
          let inside ← forEach line fuel
          redirected line inside fuel
      | .keyword "case" => do
          let inside ← select line fuel
          redirected line inside fuel
      | first => refuse first
termination_by structural fuel => fuel

/-- Redirections behind a compound command. -/
def redirected (line : Nat) (inside : Command) : Nat → Reader Command
  | 0 => fault "script too long"
  | fuel + 1 => do
      let found ← redirects fuel
      return if found.isEmpty then inside else .redirected line inside found
termination_by structural fuel => fuel

def redirects : Nat → Reader (List Redirect)
  | 0 => fault "script too long"
  | fuel + 1 => do
      match ← token false true fuel with
      | .redirect channel sign => do
          let first ← target channel sign fuel
          return first :: (← redirects fuel)
      | other => do
          push other
          return []
termination_by structural fuel => fuel

/-- Reads what a redirection leads to. -/
def target (channel : Nat) (sign : String) : Nat → Reader Redirect
  | 0 => fault "script too long"
  | fuel + 1 => do
      if sign = "<<" ∨ sign = "<<-" then
        let rest := (← get).rest.dropWhile fun c => c = ' ' || c = '\t'
        takeChars ((← get).rest.length - rest.length)
        let startsWord := rest.head?.any fun c => !endsWord c && c ≠ '#'
        if !startsWord then refuse (← token false false fuel)
        let (word, isQuoted) ← parts .delimiter false fuel
        let source ← get
        let announcement : Announcement :=
          {
            number := source.nextDocument
            delimiter := (String.join (word.map Part.bareText)).toList
            isQuoted
            stripsTabs := sign = "<<-"
          }
        set
          { source with
            nextDocument := source.nextDocument + 1
            announced := source.announced ++ [announcement] }
        return .document channel announcement.number
      else
        match ← token false false fuel with
        | .word word _ =>
            let opening : Opening :=
              match sign with
              | "<" => .read
              | "<>" => .readWrite
              | ">" => .write
              | ">|" => .overwrite
              | ">>" => .append
              | _ => .copy
            return .file channel opening word
        | other => refuse other
termination_by structural fuel => fuel

/-- Reads a simple command, or the definition of a command. -/
def simple (line : Nat) : Nat → Reader Command
  | 0 => fault "script too long"
  | fuel + 1 => simpleFrom line [] [] [] fuel
termination_by structural fuel => fuel

def simpleFrom (line : Nat) (settings : List (String × Word)) (words : List Word)
    (found : List Redirect) : Nat → Reader Command
  | 0 => fault "script too long"
  | fuel + 1 => do
      match ← token false false fuel with
      | .redirect channel sign => do
          let next ← target channel sign fuel
          simpleFrom line settings words (found ++ [next]) fuel
      | .word word isQuoted => do
          match if words.isEmpty then setting? word else none with
          | some setting => simpleFrom line (settings ++ [setting]) words found fuel
          | none => do
              let behind ← token false false fuel
              if behind.isSign "(" ∧ words.isEmpty ∧ settings.isEmpty ∧ found.isEmpty then
                definition (.word word isQuoted) fuel
              else
                push behind
                simpleFrom line settings (words ++ [word]) found fuel
      | other => do
          push other
          return .simple line settings words found
termination_by structural fuel => fuel

/-- Reads the definition of a command behind its name and an opening parenthesis. -/
def definition (name : Token) : Nat → Reader Command
  | 0 => fault "script too long"
  | fuel + 1 => do
      let closing ← token false false fuel
      if !closing.isSign ")" then refuseFor closing ")"
      match (plainName? name).filter (!reservedNames.contains ·) with
      | none => fault "Bad function name"
      | some name => do
          push (← token true true fuel)
          return .define name (← command fuel)
termination_by structural fuel => fuel

/-- The rest of a conditional behind its first word. -/
def branch : Nat → Reader Command
  | 0 => fault "script too long"
  | fuel + 1 => do
      let test ← body fuel
      expect "then" fuel
      let accepted ← body fuel
      let behind ← token false true fuel
      match behind with
      | .keyword "elif" => return .choose test accepted (some (← branch fuel))
      | .keyword "else" => do
          let refused ← body fuel
          expect "fi" fuel
          return .choose test accepted (some refused)
      | .keyword "fi" => return .choose test accepted none
      | other => refuseFor other "fi"
termination_by structural fuel => fuel

def loop (wanted : Bool) : Nat → Reader Command
  | 0 => fault "script too long"
  | fuel + 1 => do
      let test ← body fuel
      expect "do" fuel
      let repeated ← body fuel
      expect "done" fuel
      return .loop wanted test repeated
termination_by structural fuel => fuel

/-- The rest of a loop over words. -/
def forEach (line : Nat) : Nat → Reader Command
  | 0 => fault "script too long"
  | fuel + 1 => do
      match plainName? (← token false false fuel) with
      | none => fault "Bad for loop variable"
      | some name => do
          let behind ← token true true fuel
          let items ←
            if behind.isKeyword "in" then items fuel
            else do
              if !behind.isSign ";" then push behind
              pure [[Part.parameter "@" .value true]]
          let opening ← token true true fuel
          if !opening.isKeyword "do" then refuseFor opening "do"
          let repeated ← body fuel
          expect "done" fuel
          return .forEach line name items repeated
termination_by structural fuel => fuel

/-- The words that a loop goes over. -/
def items : Nat → Reader (List Word)
  | 0 => fault "script too long"
  | fuel + 1 => do
      match ← token false false fuel with
      | .word word _ => return word :: (← items fuel)
      | .sign ";" | .lineEnd => do
          documents fuel
          return []
      | other => refuse other
termination_by structural fuel => fuel

/-- The rest of a choice by patterns. -/
def select (line : Nat) : Nat → Reader Command
  | 0 => fault "script too long"
  | fuel + 1 => do
      match ← token false false fuel with
      | .word word _ => do
          let behind ← token true true fuel
          if !behind.isKeyword "in" then refuseFor behind "in"
          return .select line word (← cases fuel)
      | other => refuseFor other "word"
termination_by structural fuel => fuel

/-- The cases of a choice. -/
def cases : Nat → Reader (List (List Word × Option Command))
  | 0 => fault "script too long"
  | fuel + 1 => do
      let first ← token true true fuel
      if first.isKeyword "esac" then return []
      let first ← if first.isSign "(" then token false false fuel else pure first
      let patterns ← patterns first fuel
      let inside ← list .optional fuel
      let behind ← token true true fuel
      if behind.isKeyword "esac" then return [(patterns, inside)]
      else if behind.isSign ";;" then return (patterns, inside) :: (← cases fuel)
      else refuseFor behind ";;"
termination_by structural fuel => fuel

/-- The patterns of a case from the first one on. -/
def patterns (first : Token) : Nat → Reader (List Word)
  | 0 => fault "script too long"
  | fuel + 1 => do
      let pattern ←
        match first with
        | .word word _ => pure word
        | .keyword text => pure [Part.text text false]
        | other => refuseFor other ")"
      let behind ← token false false fuel
      if behind.isSign "|" then
        return pattern :: (← patterns (← token false false fuel) fuel)
      else if behind.isSign ")" then return [pattern]
      else refuseFor behind ")"
termination_by structural fuel => fuel
end

namespace Source

/-- A script from its first line on. -/
def start (text : String) (nextDocument : Nat) : Source where
  rest := text.toList
  line := 1
  pushed := none
  announced := []
  documents := []
  nextDocument
  aliases := []
  resolved := []

def isOver (source : Source) : Bool :=
  source.rest = [] && !(source.pushed matches some (.sign _) | some (.word ..))

/-- Reads the commands of the line ahead, none if it has none, and the rest of the script. -/
def readLine (source : Source) : Except SyntaxFault (Option Command × Source) :=
  (list .line (16 * source.rest.length + 64)).run { source with pushed := none }

end Source

end MailMerge.Shell
