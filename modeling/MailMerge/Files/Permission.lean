import MailMerge.Files.Change

/-! Permissions: nine bits for reading, writing and running, three each for the owner, the
group and others, below three bits for special uses; and the clauses that change them.
-/

namespace MailMerge.Files.Permission

/-- The bits of those whom a letter means. -/
def bitsFor (who : Char) : Nat :=
  match who with
  | 'u' => 0o4700
  | 'g' => 0o2070
  | 'o' => 0o1007
  | _ => 0o7777

/-- The bits that a letter grants, on a directory or on something that can be run. -/
def bitsOf (runs : Bool) (letter : Char) : Nat :=
  match letter with
  | 'r' => 0o444
  | 'w' => 0o222
  | 'x' => 0o111
  | 'X' => if runs then 0o111 else 0
  | 's' => 0o6000
  | 't' => 0o1000
  | _ => 0

/-- Takes bits away. -/
def without (mode bits : Nat) : Nat :=
  mode - (mode &&& bits)

/-- The permissions that one of three has, given to all. -/
def copied (mode : Nat) (who : Char) : Nat :=
  let bits :=
    match who with
    | 'u' => mode / 64 % 8
    | 'g' => mode / 8 % 8
    | _ => mode % 8
  bits * 0o111

/-- One step of a clause: a sign and what it is about. -/
structure Change where
  whose : List Char
  sign : Char
  letters : List Char
  deriving Repr

/-- Makes a change to permissions. Where nobody is named, all are meant except for the bits
that are masked.
-/
def Change.apply (change : Change) (isDirectory : Bool) (mask mode : Nat) : Nat :=
  let whole := (change.whose.map bitsFor).foldl (· ||| ·) 0
  let reach := if change.whose = [] then without 0o7777 mask else whole
  let runs : Bool := isDirectory || mode &&& 0o111 ≠ 0
  let bits :=
    match change.letters with
    | [who] => if "ugo".toList.contains who then copied mode who else bitsOf runs who
    | letters => (letters.map (bitsOf runs)).foldl (· ||| ·) 0
  let granted := bits &&& reach
  match change.sign with
  | '+' => mode ||| granted
  | '-' => without mode granted
  | _ =>
      let kept := if isDirectory then 0o6000 else 0
      without mode (without (if change.whose = [] then 0o7777 else whole) kept) ||| granted

/-- The changes of a clause; the number bounds how many there are. -/
def changesOf? (whose : List Char) : Nat → List Char → Option (List Change)
  | 0, _ => none
  | _, [] => some []
  | fuel + 1, sign :: rest =>
      if !("+-=".toList.contains sign) then none
      else
        let letters := rest.takeWhile fun c => !("+-=".toList.contains c)
        let isFine : Bool :=
          letters.all "rwxXst".toList.contains
            || (letters.length = 1 && letters.all "ugo".toList.contains)
        if !isFine then none
        else do
          let behind ← changesOf? whose fuel (rest.drop letters.length)
          return { whose, sign, letters } :: behind

def clause? (text : List Char) : Option (List Change) :=
  let whose := text.takeWhile "ugoa".toList.contains
  match text.drop whose.length with
  | [] => none
  | changes => changesOf? whose (changes.length + 1) changes

/-- What a text makes of permissions. -/
inductive Setting where
  | fixed (mode : Nat)
  | changes (changes : List Change)
  deriving Repr

def octalOf? (text : String) : Option Nat :=
  let cs := text.toList
  if cs ≠ [] ∧ cs.all fun c => '0' ≤ c && c ≤ '7' then
    some (cs.foldl (fun value c => value * 8 + (c.toNat - '0'.toNat)) 0)
  else none

/-- Reads a text that sets permissions. -/
def read? (text : String) : Option Setting :=
  match octalOf? text with
  | some mode => if mode ≤ 0o7777 then some (.fixed mode) else none
  | none =>
      (((text.splitOn ",").map String.toList).mapM clause?).map fun clauses =>
        .changes clauses.flatten

def Setting.apply (setting : Setting) (isDirectory : Bool) (mask mode : Nat) : Nat :=
  match setting with
  | .fixed bits => bits ||| (if isDirectory then mode &&& 0o6000 else 0)
  | .changes steps => steps.foldl (fun mode step => step.apply isDirectory mask mode) mode

/-! ### Showing -/

/-- Three bits as letters, the last one changed by a special use. -/
def shownThree (bits : Nat) (isSpecial : Bool) (mark : Char) : List Char :=
  let last :=
    match decide (bits % 2 = 1), isSpecial with
    | true, false => 'x'
    | true, true => mark
    | false, false => '-'
    | false, true => mark.toUpper
  [if bits / 4 % 2 = 1 then 'r' else '-', if bits / 2 % 2 = 1 then 'w' else '-', last]

/-- Permissions as nine letters. -/
def shown (mode : Nat) : String :=
  String.ofList <|
    shownThree (mode / 64 % 8) (mode / 0o4000 % 2 = 1) 's'
      ++ shownThree (mode / 8 % 8) (mode / 0o2000 % 2 = 1) 's'
      ++ shownThree (mode % 8) (mode / 0o1000 % 2 = 1) 't'

/-- Permissions as octal digits, of which there are at least so many. -/
def octal (size mode : Nat) : String :=
  let digits := Nat.toDigits 8 mode
  String.ofList (List.replicate (size - digits.length) '0' ++ digits)

/-- The letter that tells what kind of entry something is. -/
def kindLetter : Entry → Char
  | .file _ => '-'
  | .directory => 'd'
  | .link _ => 'l'

/-- The bits that tell what kind of entry something is. -/
def kindBits : Entry → Nat
  | .file _ => 0o100000
  | .directory => 0o040000
  | .link _ => 0o120000

end MailMerge.Files.Permission
