import MailMerge.Shell.Awk.Memory

/-! How programs take lines from their input, from files and from commands. -/

namespace MailMerge.Shell.Awk.Step

/-! ### Lines -/

/-- Takes more of the input, twice as much each time. -/
def extend (source : Source) : Step Source := do
  match source.block with
  | none => return source
  | some size => do
      let (input, fault?, _) ← lift (Run.readable 0)
      match fault? with
      | some e => fail s!"read error ({e.reason})"
      | none =>
          let taken := input.take size
          if taken.length < size then
            lift (Run.consume 0 taken.length none)
            return { rest := source.rest ++ taken, block := none }
          else
            lift (Run.consume 0 size (some size))
            return { rest := source.rest ++ taken, block := some (2 * size) }

/-- Takes all that is left. -/
def extendFully : Nat → Source → Step Source
  | 0, source => return source
  | fuel + 1, source =>
      if source.block.isNone then return source
      else do extendFully fuel (← extend source)

/-- Takes what stands in front of a character. -/
def takeBefore (ending : Char) : Nat → Source → Step (Option (List Char × Source))
  | 0, _ => return none
  | fuel + 1, source => do
      let text := source.rest.takeWhile (· ≠ ending)
      match source.rest.drop text.length with
      | _ :: rest => return some (text, { source with rest })
      | [] =>
          if source.block.isSome then takeBefore ending fuel (← extend source)
          else if text.isEmpty then return none
          else return some (text, { source with rest := [] })

/-- The lines up to one that is empty, and what stands behind. -/
def cutParagraph (text : List Char) : List Char × List Char :=
  let lines := splitLines text
  let own := lines.takeWhile (· ≠ [])
  (['\n'].intercalate own, joinLines ((lines.drop own.length).dropWhile (· = [])))

/-- How many times the input is extended at most. -/
def maxBlocks : Nat := 64

/-- Takes a line, or what the separator for lines makes of one. -/
def takeRecord (source : Source) : Step (Option (List Char × Source)) := do
  match ← globalText "RS" with
  | [c] => takeBefore c maxBlocks source
  | [] => do
      let source ← extendFully maxBlocks source
      let text := source.rest.dropWhile (· = newline)
      if text.isEmpty then return none
      let (own, rest) := cutParagraph text
      return some (own, { source with rest })
  | separator => do
      let source ← extendFully maxBlocks source
      if source.rest.isEmpty then return none
      let expression ← patternOf separator
      match Pattern.findFilled? expression source.rest (source.rest.length + 1) 0 with
      | some (place, size) =>
          return some (source.rest.take place,
            { source with rest := source.rest.drop (place + size) })
      | none => return some (source.rest, { source with rest := [] })

/-! ### The main input -/

/-- How much of the input is taken at first. -/
def firstBlock : Nat := 4096

def channelSource : Source where
  rest := []
  block := some firstBlock

/-- The content of a file as a source of lines. -/
def openSource (path : String) : Step (Except Files.FileError Source) := do
  if path = "-" ∨ path = "/dev/stdin" then return .ok channelSource
  else if path = "/dev/null" then return .ok { rest := [], block := none }
  else
    let files := (← lift Run.world).files
    return (files.read (← lift (Run.locate path))).map fun bytes =>
      { rest := toOctets bytes, block := none }

/-- A word that gives a variable a value. -/
def settingOf? (word : List Char) : Option (String × List Char) :=
  let name := word.takeWhile (· ≠ '=')
  match name, word.drop name.length with
  | c :: _, _ :: text =>
      if isNameStart c ∧ name.all isNamePart then some (String.ofList name, text) else none
  | _, _ => none

/-- Gives a variable the value that a word spells. -/
def settle (name : String) (text : List Char) : Step Unit :=
  setValue name (.ofInput (resolveEscapes (text.length + 1) text))

/-- Opens the next input that the words of the call name. The input of the program is used
if they name none.
-/
def openNext : Nat → Step Bool
  | 0 => return false
  | fuel + 1 => do
      let count := (wholePart (← plainValue "ARGC").toNumber).toNat
      let position := (← get).position
      if count ≤ position then
        if (← get).hasInput then return false
        modify fun memory => { memory with source? := some channelSource, hasInput := true }
        setGlobal "FILENAME" (.text ['-'])
        setGlobal "FNR" (.number 0)
        return true
      modify fun memory => { memory with position := position + 1 }
      let words ← table (← tableAt "ARGV")
      let word ← textOf ((words.get? (.number position)).getD .nothing)
      if word.isEmpty then openNext fuel
      else
        match settingOf? word with
        | some (name, text) => do
            settle name text
            openNext fuel
        | none => do
            let path := String.ofList word
            match ← openSource path with
            | .ok source => do
                modify fun memory => { memory with source? := some source, hasInput := true }
                setGlobal "FILENAME" (.text word)
                setGlobal "FNR" (.number 0)
                return true
            | .error .isDirectory => fail s!"read error (Is a directory)"
            | .error e => fail s!"cannot open \"{path}\" ({e.reason})"

/-- The next line of the main input. -/
def nextLine : Nat → Step (Option (List Char))
  | 0 => return none
  | fuel + 1 => do
      match (← get).source? with
      | none =>
          if ← openNext 100000 then nextLine fuel else return none
      | some source =>
          match ← takeRecord source with
          | some (text, source) => do
              modify fun memory => { memory with source? := some source }
              for name in ["NR", "FNR"] do
                setGlobal name (.number ((← plainValue name).toNumber + 1))
              return some text
          | none => do
              modify fun memory => { memory with source? := none }
              nextLine fuel

/-- How many inputs are tried for a line at most. -/
def maxInputs : Nat := 100000

/-! ### Other sources -/

/-- The source of lines that is known under a name. It is opened when it is first used. -/
def feederAt? (feed : Feed) (path : List Char) : Step (Option Feeder) := do
  match (← get).feeders.find? fun feeder => feeder.feed = feed && feeder.path = path with
  | some feeder => return some feeder
  | none =>
      match feed with
      | .command => do
          let (text, status) ← captureCommand path
          return some { feed, path, source := { rest := text, block := none }, status }
      | _ => do
          match ← openSource (String.ofList path) with
          | .ok source => return some { feed, path, source, status := 0 }
          | .error _ => return none

/-- A line from a file or a command: none if there is no such source, and nothing at its
end.
-/
def takeFrom (feed : Feed) (path : List Char) : Step (Option (Option (List Char))) := do
  match ← feederAt? feed path with
  | none => return none
  | some feeder => do
      let put (feeder : Feeder) : Step Unit :=
        modify fun memory =>
          { memory with
            feeders :=
              feeder :: memory.feeders.filter fun found =>
                !(found.feed = feed && found.path = path) }
      match ← takeRecord feeder.source with
      | some (text, source) => do
          put { feeder with source }
          return some (some text)
      | none => do
          put { feeder with source := { rest := [], block := none } }
          return some none

end MailMerge.Shell.Awk.Step
