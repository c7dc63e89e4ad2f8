import MailMerge.Platform

/-! A reader of comma-separated records. Lines without a character are no records. -/

namespace MailMerge.Csv

/-- Where the reading of a record stands. -/
inductive Place where
  | recordStart
  | fieldStart
  /-- Inside a field without quotes, or behind the closing quote of one with quotes. -/
  | plain
  | quoted
  /-- Behind a quote inside a quoted field, which closes it unless another one follows. -/
  | afterQuote
  deriving DecidableEq, Repr

def quote : UInt8 := 0x22

def comma : UInt8 := 0x2C

def isRecordEnd (byte : UInt8) : Bool :=
  byte = 0x0A || byte = 0x0D

/-- Reads records. The field in hand and the fields before it are kept back to front. -/
def scan (place : Place) (field : Bytes) (fields : List Bytes) : Bytes → List (List Bytes)
  | [] =>
      if place = .recordStart then [] else [(field.reverse :: fields).reverse]
  | byte :: bytes =>
      if place = .quoted then
        if byte = quote then scan .afterQuote field fields bytes
        else scan .quoted (byte :: field) fields bytes
      else if place = .afterQuote ∧ byte = quote then
        scan .quoted (byte :: field) fields bytes
      else if byte = comma then
        scan .fieldStart [] (field.reverse :: fields) bytes
      else if isRecordEnd byte then
        if place = .recordStart then scan .recordStart [] [] bytes
        else (field.reverse :: fields).reverse :: scan .recordStart [] [] bytes
      else if (place = .recordStart ∨ place = .fieldStart) ∧ byte = quote then
        scan .quoted [] fields bytes
      else
        scan .plain (byte :: field) fields bytes

/-- A byte order mark at the start of a file is not part of its text. -/
def dropMark : Bytes → Bytes
  | 0xEF :: 0xBB :: 0xBF :: bytes => bytes
  | bytes => bytes

/-- The records of a file, of which the fields may be any bytes. -/
def rawRecords (bytes : Bytes) : List (List Bytes) :=
  scan .recordStart [] [] (dropMark bytes)

/-- The texts of a record's fields, if all of them are texts. -/
def texts? (record : List Bytes) : Option (List String) :=
  record.mapM Text.ofBytes?

/-- The records of a file, if all of their fields are texts. -/
def records (bytes : Bytes) : Except ReadError (List (List String)) :=
  match (rawRecords bytes).mapM texts? with
  | some recorded => .ok recorded
  | none => .error { message := "CSV parse error: a field is not valid UTF-8", causes := [] }

end MailMerge.Csv
