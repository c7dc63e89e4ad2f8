import MailMerge.Text.Blank

/-! Mail messages: headers, an empty line and a body. Line breaks of a subject are folded
away, and an address with white space in it is no address.
-/

namespace MailMerge.Mail

/-- An address can stand in a header if it has an at sign, no white space and no control
characters.
-/
def isAddress (address : String) : Bool :=
  address.toList.contains '@'
    && !address.toList.any (fun c => Text.isBlank c || Text.isControl c)

def isLineBreak (c : Char) : Bool :=
  c = '\r' || c = '\n'

/-- The stretches of text between line breaks, without the empty ones. -/
def stretches (cs : List Char) : List (List Char) :=
  (cs.splitOnP isLineBreak).filter (· ≠ [])

/-- Puts text on one line: each run of line breaks between other text becomes a space. -/
def fold (text : String) : String :=
  String.ofList ([' '].intercalate (stretches text.toList))

structure Message where
  sender : Option String
  recipient : String
  subject : String
  body : String
  deriving DecidableEq, Repr

namespace Message

/-- A body as it is sent: with a line feed at its end. -/
def closeBody (body : String) : String :=
  if body.toList.getLast? = some '\n' then body else body ++ "\n"

/-- The message as it is sent. -/
def text (message : Message) : String :=
  message.sender.elim "" (fun sender => "From: " ++ sender ++ "\n")
    ++ "To: " ++ message.recipient ++ "\n"
    ++ "Subject: " ++ fold message.subject ++ "\n"
    ++ "\n"
    ++ closeBody message.body

end Message

end MailMerge.Mail
