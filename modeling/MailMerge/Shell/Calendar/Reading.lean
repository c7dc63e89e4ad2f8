import MailMerge.Shell.Calendar.Moment

/-! Moments read from texts: dates, times, days of the week and spans of time, in any order.
What is not said is taken from the moment that it is.
-/

namespace MailMerge.Shell.Calendar

inductive Token where
  | number (sign : Option Char) (digits : List Char)
  | word (text : String)
  | mark (c : Char)
  deriving DecidableEq, Repr

/-- Reads tokens; the number bounds how many characters there are. -/
def tokensOf : Nat → List Char → List Token
  | 0, _ | _, [] => []
  | fuel + 1, c :: cs =>
      if c.isDigit then
        let digits := (c :: cs).takeWhile Char.isDigit
        .number none digits :: tokensOf fuel ((c :: cs).drop digits.length)
      else if c = '-' ∨ c = '+' then
        let rest := cs.dropWhile isSpace
        let digits := rest.takeWhile Char.isDigit
        if digits = [] then tokensOf fuel cs
        else .number (some c) digits :: tokensOf fuel (rest.drop digits.length)
      else if c.isAlpha then
        let letters := (c :: cs).takeWhile fun c => c.isAlpha || c = '.'
        let text := String.ofList ((letters.filter (· ≠ '.')).map Char.toLower)
        .word text :: tokensOf fuel ((c :: cs).drop letters.length)
      else if c = '(' then tokensOf fuel ((cs.dropWhile (· ≠ ')')).drop 1)
      else if isSpace c ∨ c = ',' then tokensOf fuel cs
      else .mark c :: tokensOf fuel cs

def valueOf (digits : List Char) : Nat :=
  digits.foldl (fun value c => value * 10 + (c.toNat - '0'.toNat)) 0

/-- A year that may be given by its last two digits. -/
def yearOf (digits : List Char) : Int :=
  let value := valueOf digits
  if digits.length ≤ 2 then (if value < 69 then 2000 + value else 1900 + value) else value

/-- What has been read of a moment. -/
structure Draft where
  year : Option Int
  monthAndDay : Option (Nat × Nat)
  /-- The hour, the minute, the second and the nanoseconds. -/
  time : Option (Nat × Nat × Nat × Nat)
  /-- How far the clocks are ahead, in seconds. -/
  zone : Option Int
  weekday : Option (Int × Nat)
  /-- Years, months, days and nanoseconds to go on. -/
  shift : Int × Int × Int × Int
  isShifted : Bool
  /-- A time since the start of 1970. -/
  fixed : Option Int

def Draft.start : Draft where
  year := none
  monthAndDay := none
  time := none
  zone := none
  weekday := none
  shift := (0, 0, 0, 0)
  isShifted := false
  fixed := none

/-- The place of a name that may be cut to its first letters. -/
def placeOf? (names : List String) (text : String) : Option Nat :=
  let isMeant (name : String) : Bool :=
    let name := name.map Char.toLower
    name = text || (3 ≤ text.length && name.startsWith text && text.length ≤ 4)
  names.findIdx? isMeant

/-- The span that a word names: years, months, days and seconds. -/
def spanOf? (text : String) : Option (Int × Int × Int × Int) :=
  let text := if text.endsWith "s" ∧ text.length > 3 then (text.dropEnd 1).toString else text
  match text with
  | "year" => some (1, 0, 0, 0)
  | "month" => some (0, 1, 0, 0)
  | "fortnight" => some (0, 0, 14, 0)
  | "week" => some (0, 0, 7, 0)
  | "day" => some (0, 0, 1, 0)
  | "hour" => some (0, 0, 0, 3600)
  | "minute" | "min" => some (0, 0, 0, 60)
  | "second" | "sec" => some (0, 0, 0, 1)
  | _ => none

/-- What stands for a count of spans. -/
def countOf? (text : String) : Option Int :=
  match text with
  | "last" => some (-1)
  | "this" => some 0
  | "next" | "first" => some 1
  | "third" => some 3
  | "fourth" => some 4
  | "fifth" => some 5
  | "sixth" => some 6
  | "seventh" => some 7
  | "eighth" => some 8
  | "ninth" => some 9
  | "tenth" => some 10
  | "eleventh" => some 11
  | "twelfth" => some 12
  | _ => none

/-- The hours by which the clocks are ahead in a zone. -/
def zoneOf? (text : String) : Option Int :=
  [
    ("utc", 0), ("gmt", 0), ("z", 0), ("wet", 0), ("cet", 1), ("met", 1), ("eet", 2),
    ("msk", 3), ("jst", 9), ("est", -5), ("edt", -4), ("cst", -6), ("cdt", -5), ("mst", -7),
    ("mdt", -6), ("pst", -8), ("pdt", -7), ("bst", 1), ("ist", 5), ("west", 1), ("cest", 2),
    ("mest", 2), ("eest", 3)
  ].lookup text

namespace Draft

/-- Goes on by a span so many times. -/
def goOn (draft : Draft) (count : Int) (span : Int × Int × Int × Int) : Draft :=
  let (years, months, days, nanos) := draft.shift
  let (y, m, d, s) := span
  { draft with
    shift :=
      (years + count * y, months + count * m, days + count * d,
        nanos + count * s * secondSpan)
    isShifted := true }

def setDate (draft : Draft) (year : Option Int) (month day : Nat) : Draft :=
  { draft with year := year <|> draft.year, monthAndDay := some (month, day) }

def setTime (draft : Draft) (hour minute second nanos : Nat) : Draft :=
  { draft with time := some (hour, minute, second, nanos) }

/-- The hour of a half of the day. -/
def hourIn? (half : String) (hour : Nat) : Option Nat :=
  if hour = 0 ∨ 12 < hour then none
  else
    match half with
    | "am" => some (hour % 12)
    | "pm" => some (hour % 12 + 12)
    | _ => none

/-- The nanoseconds that digits behind a point stand for. -/
def nanosOf (digits : List Char) : Nat :=
  valueOf (digits.take 9 ++ List.replicate (9 - digits.length) '0')

/-- Takes in a number on its own. -/
def addNumber (draft : Draft) (digits : List Char) : Draft :=
  let value := valueOf digits
  if draft.monthAndDay.isSome ∧ draft.year.isNone ∧ !draft.isShifted
      ∧ (draft.time.isSome ∨ 2 < digits.length) then
    { draft with year := some (yearOf digits) }
  else if 4 < digits.length then
    let yearDigits := digits.take (digits.length - 4)
    draft.setDate (some (yearOf yearDigits)) (value / 100 % 100) (value % 100)
  else if digits.length ≤ 2 then draft.setTime value 0 0 0
  else draft.setTime (value / 100) (value % 100) 0 0

/-- Takes in the half of the day or the zone that may stand behind a time. -/
def addTail (draft : Draft) : List Token → Option (Draft × List Token)
  | .word half :: rest =>
      match draft.time with
      | some (hour, others) =>
          if half = "am" ∨ half = "pm" then
            (hourIn? half hour).map fun hour => ({ draft with time := some (hour, others) }, rest)
          else some (draft, .word half :: rest)
      | none => some (draft, .word half :: rest)
  | .number (some sign) digits :: rest =>
      let turn (seconds : Nat) : Int := if sign = '-' then -(seconds : Int) else seconds
      match rest with
      | .mark ':' :: .number none minutes :: rest =>
          let zone := turn (valueOf digits * 3600 + valueOf minutes * 60)
          some ({ draft with zone := some zone }, rest)
      | .word unit :: _ =>
          if (spanOf? unit).isSome then some (draft, .number (some sign) digits :: rest)
          else some ({ draft with zone := some (turn (zoneSeconds digits)) }, rest)
      | _ => some ({ draft with zone := some (turn (zoneSeconds digits)) }, rest)
  | rest => some (draft, rest)
where
  /-- The seconds that the digits of a zone stand for. -/
  zoneSeconds (digits : List Char) : Nat :=
    let value := valueOf digits
    if digits.length ≤ 2 then value * 3600 else value / 100 * 3600 + value % 100 * 60

/-- Takes in a count of spans. -/
def addSpan (draft : Draft) (count : Int) (span : Int × Int × Int × Int)
    : List Token → Draft × List Token
  | .word "ago" :: rest => (draft.goOn (-count) span, rest)
  | rest => (draft.goOn count span, rest)

/-- Takes in what a word stands for. -/
def addWord (draft : Draft) (text : String) (rest : List Token)
    : Option (Draft × List Token) :=
  let noSpan : Int × Int × Int × Int := (0, 0, 0, 0)
  let oneDay : Int × Int × Int × Int := (0, 0, 1, 0)
  match text, rest with
  | "now", _ | "today", _ => some (draft.goOn 0 noSpan, rest)
  | "tomorrow", _ => some (draft.goOn 1 oneDay, rest)
  | "yesterday", _ => some (draft.goOn (-1) oneDay, rest)
  | "t", _ => some (draft, rest)
  | "noon", _ => some (draft.setTime 12 0 0 0, rest)
  | "midnight", _ => some (draft.setTime 0 0 0 0, rest)
  | _, _ =>
      match placeOf? monthNames text, rest with
      | some month, .number none day :: .number none year :: .mark ':' :: rest =>
          some (draft.setDate none (month + 1) (valueOf day),
            .number none year :: .mark ':' :: rest)
      | some month, .number none day :: .number none year :: rest =>
          some (draft.setDate (some (yearOf year)) (month + 1) (valueOf day), rest)
      | some month, .number _ day :: .number (some '-') year :: rest =>
          some (draft.setDate (some (yearOf year)) (month + 1) (valueOf day), rest)
      | some month, .number none day :: rest =>
          some (draft.setDate none (month + 1) (valueOf day), rest)
      | some _, _ => none
      | none, _ =>
          match placeOf? dayNames text, spanOf? text, zoneOf? text, countOf? text with
          | some day, _, _, _ => some ({ draft with weekday := some (0, day) }, rest)
          | none, some span, _, _ => some (draft.addSpan 1 span rest)
          | none, none, some hours, _ =>
              some ({ draft with zone := some (hours * 3600) }, rest)
          | none, none, none, some count =>
              match rest with
              | .word text :: rest =>
                  match placeOf? dayNames text, spanOf? text with
                  | some day, _ => some ({ draft with weekday := some (count, day) }, rest)
                  | none, some span => some (draft.addSpan count span rest)
                  | none, none => none
              | _ => none
          | _, _, _, _ => none

/-- Takes in what the first tokens stand for. -/
def addNext (draft : Draft) : List Token → Option (Draft × List Token)
  | .mark '@' :: .number sign digits :: rest =>
      let seconds : Int := if sign = some '-' then -(valueOf digits : Int) else valueOf digits
      match rest with
      | [.mark '.', .number none fraction] =>
          some ({ draft with fixed := some (seconds * secondSpan + nanosOf fraction) }, [])
      | [] => some ({ draft with fixed := some (seconds * secondSpan) }, [])
      | _ => none
  | .number none year :: .number (some '-') month :: .number (some '-') day :: rest =>
      some (draft.setDate (some (yearOf year)) (valueOf month) (valueOf day), rest)
  | .number none first :: .mark '/' :: .number none second :: .mark '/'
      :: .number none third :: rest =>
      if 4 ≤ first.length then
        some (draft.setDate (some (yearOf first)) (valueOf second) (valueOf third), rest)
      else some (draft.setDate (some (yearOf third)) (valueOf first) (valueOf second), rest)
  | .number none month :: .mark '/' :: .number none day :: rest =>
      some (draft.setDate none (valueOf month) (valueOf day), rest)
  | .number none hour :: .mark ':' :: .number none minute :: .mark ':'
      :: .number none second :: .mark '.' :: .number none fraction :: rest =>
      (draft.setTime (valueOf hour) (valueOf minute) (valueOf second)
        (nanosOf fraction)).addTail rest
  | .number none hour :: .mark ':' :: .number none minute :: .mark ':'
      :: .number none second :: rest =>
      (draft.setTime (valueOf hour) (valueOf minute) (valueOf second) 0).addTail rest
  | .number none hour :: .mark ':' :: .number none minute :: rest =>
      (draft.setTime (valueOf hour) (valueOf minute) 0 0).addTail rest
  | .number sign digits :: .word text :: rest =>
      let count : Int := if sign = some '-' then -(valueOf digits : Int) else valueOf digits
      match spanOf? text, placeOf? monthNames text, sign with
      | some span, _, _ => some (draft.addSpan count span rest)
      | none, some month, none =>
          match rest with
          | .number none _ :: .mark ':' :: _ =>
              some (draft.setDate none (month + 1) (valueOf digits), rest)
          | .number none year :: rest | .number (some '-') year :: rest =>
              some (draft.setDate (some (yearOf year)) (month + 1) (valueOf digits), rest)
          | _ => some (draft.setDate none (month + 1) (valueOf digits), rest)
      | none, none, none =>
          if text = "am" ∨ text = "pm" then
            (hourIn? text (valueOf digits)).map fun hour => (draft.setTime hour 0 0 0, rest)
          else some (draft.addNumber digits, .word text :: rest)
      | _, _, _ => none
  | .number none digits :: rest => some (draft.addNumber digits, rest)
  | .word text :: rest => draft.addWord text rest
  | _ => none

/-- Takes in all tokens; the number bounds how many there are. -/
def addAll (draft : Draft) : Nat → List Token → Option Draft
  | _, [] => some draft
  | 0, _ => none
  | fuel + 1, tokens => do
      let (draft, rest) ← draft.addNext tokens
      draft.addAll fuel rest

/-- How many days a month has. -/
def monthLength (year : Int) (month : Nat) : Nat :=
  (if month = 12 then dayNumber (year + 1) 1 1 - dayNumber year 12 1
    else dayNumber year (month + 1) 1 - dayNumber year month 1).toNat

/-- The time that a draft comes to, seen from a time. -/
def time? (draft : Draft) (now : Int) : Option Int :=
  match draft.fixed with
  | some time => some time
  | none => do
      let base := momentOf now
      let year := draft.year.getD base.year
      let (month, day) := draft.monthAndDay.getD (base.month, base.day)
      let isDated : Bool := draft.monthAndDay.isSome || draft.weekday.isSome
      let (hour, minute, second, nanos) :=
        match draft.time with
        | some time => time
        | none =>
            if draft.isShifted ∧ !isDated then
              (base.hour, base.minute, base.second, base.nanos)
            else (0, 0, 0, 0)
      if month = 0 ∨ 12 < month ∨ day = 0 ∨ monthLength year month < day then none
      if 23 < hour ∨ 59 < minute ∨ 60 < second then none
      let (years, months, days, span) := draft.shift
      let monthCount := (year + years) * 12 + ((month : Int) - 1) + months
      let number :=
        dayNumber (Int.fdiv monthCount 12) ((Int.emod monthCount 12).toNat + 1) 1
          + ((day : Int) - 1) + days
      let number :=
        match draft.weekday with
        | none => number
        | some (count, weekday) =>
            let today := Int.emod (number + 4) 7
            let isOther : Bool := today ≠ (weekday : Int)
            number + Int.emod ((weekday : Int) - today + 7) 7
              + 7 * (count - if 0 < count ∧ isOther then 1 else 0)
      let seconds :=
        number * daySeconds + (hour * 3600 + minute * 60 + second : Nat) - draft.zone.getD 0
      return seconds * secondSpan + nanos + span

end Draft

/-- The time that a text stands for, seen from a time. -/
def read? (now : Int) (text : String) : Option Int := do
  let tokens := tokensOf (text.length + 1) text.toList
  if tokens = [] then Draft.start.time? now
  else (← Draft.start.addAll (tokens.length + 1) tokens).time? now

end MailMerge.Shell.Calendar
