import MailMerge.Shell.Octets

/-! Days and times of the Gregorian calendar, as numbers and as texts. -/

namespace MailMerge.Shell

/-- A time of a day; the time that it is everywhere. -/
structure Moment where
  year : Int
  /-- From one to twelve. -/
  month : Nat
  /-- From one on. -/
  day : Nat
  hour : Nat
  minute : Nat
  second : Nat
  nanos : Nat
  deriving DecidableEq, Repr

namespace Calendar

/-- The days since the first of January 1970. Years are counted from March on, so that a
leap day is the last of its year.
-/
def dayNumber (year : Int) (month day : Nat) : Int :=
  let year := if month ≤ 2 then year - 1 else year
  let era := Int.fdiv year 400
  let yearOfEra := year - era * 400
  let monthFromMarch : Nat := (month + 9) % 12
  let dayOfYear : Int := ((153 * monthFromMarch + 2) / 5 + day : Nat) - 1
  let dayOfEra := yearOfEra * 365 + yearOfEra / 4 - yearOfEra / 100 + dayOfYear
  era * 146097 + dayOfEra - 719468

/-- The year, the month and the day of a number of days. -/
def dateOf (number : Int) : Int × Nat × Nat :=
  let number := number + 719468
  let era := Int.fdiv number 146097
  let dayOfEra := (number - era * 146097).toNat
  let yearOfEra :=
    (dayOfEra - dayOfEra / 1460 + dayOfEra / 36524 - dayOfEra / 146096) / 365
  let dayOfYear := dayOfEra - (365 * yearOfEra + yearOfEra / 4 - yearOfEra / 100)
  let monthFromMarch := (5 * dayOfYear + 2) / 153
  let day := dayOfYear - (153 * monthFromMarch + 2) / 5 + 1
  let month := if monthFromMarch < 10 then monthFromMarch + 3 else monthFromMarch - 9
  let year : Int := yearOfEra + era * 400
  (if month ≤ 2 then year + 1 else year, month, day)

/-- A second has so many nanoseconds, and a day so many seconds. -/
def secondSpan : Int := 1000000000
def daySeconds : Int := 86400

/-- The moment that lies so many nanoseconds behind the start of 1970. -/
def momentOf (time : Int) : Moment :=
  let seconds := Int.fdiv time secondSpan
  let days := Int.fdiv seconds daySeconds
  let rest := (seconds - days * daySeconds).toNat
  let (year, month, day) := dateOf days
  {
    year, month, day
    hour := rest / 3600
    minute := rest / 60 % 60
    second := rest % 60
    nanos := (time - seconds * secondSpan).toNat
  }

/-- The seconds from the start of 1970 to a moment. -/
def secondsOf (moment : Moment) : Int :=
  dayNumber moment.year moment.month moment.day * daySeconds
    + (moment.hour * 3600 + moment.minute * 60 + moment.second : Nat)

def timeOf (moment : Moment) : Int :=
  secondsOf moment * secondSpan + moment.nanos

/-- The day of the week, from Sunday on. -/
def weekday (moment : Moment) : Nat :=
  (Int.emod (dayNumber moment.year moment.month moment.day + 4) 7).toNat

/-- The day of the year, from one on. -/
def yearDay (moment : Moment) : Nat :=
  (dayNumber moment.year moment.month moment.day - dayNumber moment.year 1 1).toNat + 1

def dayNames : List String :=
  ["Sunday", "Monday", "Tuesday", "Wednesday", "Thursday", "Friday", "Saturday"]

def monthNames : List String :=
  [
    "January", "February", "March", "April", "May", "June", "July", "August", "September",
    "October", "November", "December"
  ]

/-- The year and the number of the week that a day belongs to: the week of the year's first
Thursday is the first one, and weeks start with Monday.
-/
def weekOfYear (moment : Moment) : Int × Nat :=
  let number := dayNumber moment.year moment.month moment.day
  let fromMonday := (weekday moment + 6) % 7
  let (year, _, _) := dateOf (number - fromMonday + 3)
  let thursday := number - fromMonday + 3
  (year, ((thursday - dayNumber year 1 1).toNat) / 7 + 1)

/-! ### Texts -/

/-- A number with something in front of it, to have a size. -/
def padded (fill : Char) (size : Nat) (number : Int) : String :=
  let digits := (toString number.natAbs).toList
  let sign : List Char := if number < 0 then ['-'] else []
  let gap := List.replicate (size - sign.length - digits.length) fill
  String.ofList (if fill = '0' then sign ++ gap ++ digits else gap ++ sign ++ digits)

/-- How a part of a moment is to be shown: what fills it up, its least size, and whether in
large letters.
-/
structure Style where
  fill : Option Char
  isBare : Bool
  isUpper : Bool
  swapsCase : Bool
  size : Option Nat

def Style.plain : Style where
  fill := none
  isBare := false
  isUpper := false
  swapsCase := false
  size := none

/-- A number in a style that comes with a usual filling and size. -/
def Style.number (style : Style) (fill : Char) (size : Nat) (number : Int) : String :=
  if style.isBare then toString number
  else padded (style.fill.getD fill) (style.size.getD size) number

def Style.text (style : Style) (text : String) : String :=
  let text := if style.isUpper ∨ style.swapsCase then text.map Char.toUpper else text
  let gap := style.size.getD 0 - text.length
  String.ofList (List.replicate gap (if style.fill = some '0' then '0' else ' ')) ++ text

def short (text : String) : String :=
  String.ofList (text.toList.take 3)

def halfDay (hour : Nat) : Nat :=
  if hour % 12 = 0 then 12 else hour % 12

/-- The formats that some letters are short for. -/
def shortened? (letter : Char) : Option String :=
  match letter with
  | 'c' => some "%a %b %e %H:%M:%S %Y"
  | 'D' | 'x' => some "%m/%d/%y"
  | 'F' => some "%+4Y-%m-%d"
  | 'r' => some "%I:%M:%S %p"
  | 'R' => some "%H:%M"
  | 'T' | 'X' => some "%H:%M:%S"
  | _ => none

/-- One part of a moment, if a letter names one. -/
def part? (moment : Moment) (style : Style) (letter : Char) : Option String :=
  let week (start : Nat) : Nat :=
    (yearDay moment + 6 - (weekday moment + 7 - start) % 7) / 7
  match letter with
  | 'a' => some (style.text (short (dayNames.getD (weekday moment) "")))
  | 'A' => some (style.text (dayNames.getD (weekday moment) ""))
  | 'b' | 'h' => some (style.text (short (monthNames.getD (moment.month - 1) "")))
  | 'B' => some (style.text (monthNames.getD (moment.month - 1) ""))
  | 'C' => some (style.number '0' 2 (Int.fdiv moment.year 100))
  | 'd' => some (style.number '0' 2 moment.day)
  | 'e' => some (style.number ' ' 2 moment.day)
  | 'g' => some (style.number '0' 2 (Int.emod (weekOfYear moment).1 100))
  | 'G' => some (style.number '0' 4 (weekOfYear moment).1)
  | 'H' => some (style.number '0' 2 moment.hour)
  | 'I' => some (style.number '0' 2 (halfDay moment.hour))
  | 'j' => some (style.number '0' 3 (yearDay moment))
  | 'k' => some (style.number ' ' 2 moment.hour)
  | 'l' => some (style.number ' ' 2 (halfDay moment.hour))
  | 'm' => some (style.number '0' 2 moment.month)
  | 'M' => some (style.number '0' 2 moment.minute)
  | 'n' => some "\n"
  | 'N' =>
      let digits := (padded '0' 9 moment.nanos).toList
      some <|
        match style.isBare, style.size with
        | true, _ => toString moment.nanos
        | false, some size =>
            String.ofList (digits.take size ++ List.replicate (size - 9) '0')
        | false, none => String.ofList digits
  | 'p' =>
      let text := if moment.hour < 12 then "AM" else "PM"
      some (if style.swapsCase then text.map Char.toLower else style.text text)
  | 'P' => some (style.text (if moment.hour < 12 then "am" else "pm"))
  | 'q' => some (style.number '0' 1 ((moment.month + 2) / 3 : Nat))
  | 's' => some (style.number '0' 1 (secondsOf moment))
  | 'S' => some (style.number '0' 2 moment.second)
  | 't' => some "\t"
  | 'u' => some (style.number '0' 1 (if weekday moment = 0 then 7 else weekday moment : Nat))
  | 'U' => some (style.number '0' 2 (week 0))
  | 'V' => some (style.number '0' 2 (weekOfYear moment).2)
  | 'w' => some (style.number '0' 1 (weekday moment))
  | 'W' => some (style.number '0' 2 (week 1))
  | 'y' => some (style.number '0' 2 (Int.emod moment.year 100))
  | 'Y' => some (style.number '0' 4 moment.year)
  | 'z' => some "+0000"
  | 'Z' =>
      some (if style.swapsCase then "utc" else style.text "UTC")
  | '%' => some "%"
  | _ => none

/-- Reads the signs between a percent sign and its letter. -/
def readStyle : Style → List Char → Style × List Char
  | style, '-' :: cs => readStyle { style with isBare := true } cs
  | style, '_' :: cs => readStyle { style with fill := some ' ', isBare := false } cs
  | style, '0' :: cs => readStyle { style with fill := some '0', isBare := false } cs
  | style, '+' :: cs => readStyle { style with fill := some '0', isBare := false } cs
  | style, '^' :: cs => readStyle { style with isUpper := true } cs
  | style, '#' :: cs => readStyle { style with swapsCase := true } cs
  | style, cs =>
      let digits := cs.takeWhile Char.isDigit
      let size := digits.foldl (fun value c => value * 10 + (c.toNat - '0'.toNat)) 0
      (if digits = [] then style else { style with size := some size }, cs.drop digits.length)

/-- A moment in a format; the number bounds how many signs are read. -/
def formatFrom (moment : Moment) : Nat → List Char → List Char
  | 0, _ | _, [] => []
  | fuel + 1, '%' :: cs =>
      let (style, rest) := readStyle .plain cs
      let colons := rest.takeWhile (· = ':')
      match rest.drop colons.length with
      | [] => '%' :: cs
      | letter :: behind =>
          let letter := if letter = 'E' ∨ letter = 'O' then behind.headD letter else letter
          let behind :=
            if (rest.drop colons.length).head?.any (fun c => c = 'E' || c = 'O') then behind.tail
            else behind
          let tail := formatFrom moment fuel behind
          match shortened? letter with
          | some format =>
              let text := String.ofList (formatFrom moment fuel format.toList)
              (style.text text).toList ++ tail
          | none =>
              if colons ≠ [] ∧ letter = 'z' then
                (match colons.length with
                  | 1 => "+00:00"
                  | 2 => "+00:00:00"
                  | _ => "+00").toList ++ tail
              else
                match part? moment style letter with
                | some text => text.toList ++ tail
                | none => '%' :: cs.take (cs.length - behind.length) ++ tail
  | fuel + 1, c :: cs => c :: formatFrom moment fuel cs

def format (moment : Moment) (text : String) : String :=
  String.ofList (formatFrom moment (text.length * 2 + 64) text.toList)

end Calendar

end MailMerge.Shell
