import MailMerge.Shell.Utility.Listing

/-! The time that it is, or another one, in a format. -/

namespace MailMerge.Shell.Utility

open Work

/-- The formats that named precisions stand for. -/
def isoFormats : List (String × String) :=
  [
    ("date", "%Y-%m-%d"), ("hours", "%Y-%m-%dT%H%:z"), ("minutes", "%Y-%m-%dT%H:%M%:z"),
    ("seconds", "%Y-%m-%dT%H:%M:%S%:z"), ("ns", "%Y-%m-%dT%H:%M:%S,%N%:z")
  ]

def rfcFormats : List (String × String) :=
  [
    ("date", "%Y-%m-%d"), ("seconds", "%Y-%m-%d %H:%M:%S%:z"), ("ns", "%Y-%m-%d %H:%M:%S.%N%:z")
  ]

/-- The format that the switches and operands ask for. -/
def dateFormat (arguments : Arguments) : Work String := do
  let name := "date"
  let precision (letter : Char) (option : String) (formats : List (String × String))
      : Work (Option String) := do
    match arguments.value? letter with
    | none => return none
    | some word =>
        checkWord name option (formats.map Prod.fst) (some word)
        return (formats.find? fun found => found.1.startsWith word).map Prod.snd
  let iso? ← precision 'I' "--iso-8601" isoFormats
  let rfc? ← precision '\x01' "--rfc-3339" rfcFormats
  let mail? := if arguments.has 'R' then some "%a, %d %b %Y %H:%M:%S %z" else none
  let given := iso?.toList ++ rfc?.toList ++ mail?.toList
  match arguments.operands with
  | [] => return given.headD "%a %b %e %H:%M:%S %Z %Y"
  | [operand] =>
      if operand.startsWith "+" then
        if given ≠ [] then fail 1 name "multiple output formats specified"
        return (operand.drop 1).toString
      else if arguments.has 'd' ∨ arguments.has 'r' ∨ arguments.has 'f' then
        misuse 1 name
          (s!"the argument {quotedAsNeeded operand} lacks a leading '+';\n"
            ++ "when using an option to specify date(s), any non-option\n"
            ++ "argument must be a format string beginning with '+'")
      else fail 1 name s!"invalid date {marked operand}"
  | _ :: extra :: _ => misuse 1 name ("extra operand " ++ marked extra)

def showDate (words : List String) : Work Nat := do
  let name := "date"
  let switches : Switches :=
    {
      letters :=
        ("uR\x02".toList.map (·, .alone)) ++ ("dfrs\x01".toList.map (·, .value))
          ++ [('I', .optional)]
      names :=
        [
          ("date", 'd'), ("file", 'f'), ("reference", 'r'), ("set", 's'), ("utc", 'u'),
          ("universal", 'u'), ("rfc-email", 'R'), ("rfc-2822", 'R'), ("rfc-3339", '\x01'),
          ("iso-8601", 'I'), ("debug", '\x02')
        ]
      permutes := true
    }
  let words := words.map fun word => if word = "-I" ∨ word = "--iso-8601" then "-Idate" else word
  let arguments ← arguments switches 1 name words
  let format ← dateFormat arguments
  let now := (← get).files.stamp.time
  let tell (time : Int) : Work Unit :=
    sayLine (Calendar.format (Calendar.momentOf time) format)
  match arguments.value? 'd', arguments.value? 'r', arguments.value? 'f' with
  | some text, none, none =>
      match Calendar.read? now text with
      | some time => do
          tell time
          return 0
      | none => fail 1 name s!"invalid date {marked text}"
  | none, some path, none =>
      match ← listed true path path with
      | .ok one => do
          tell one.time
          return 0
      | .error e => fail 1 name s!"{quotedAsNeeded path}: {e.reason}"
  | none, none, some path => do
      match ← content path with
      | .error e => fail 1 name (plainProblem path e)
      | .ok text => do
          let mut isFine := true
          for line in splitLines text do
            let line := String.ofList line
            match Calendar.read? now line with
            | some time => tell time
            | none => do
                warn name s!"invalid date {marked line}"
                isFine := false
          return statusOf isFine
  | none, none, none => do
      tell now
      return 0
  | _, _, _ => misuse 1 name "the options to specify dates for printing are mutually exclusive"

end MailMerge.Shell.Utility
