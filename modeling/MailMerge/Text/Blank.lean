/-! Character classes of Unicode text: white space, control characters, and trimming.
White space is the property White_Space, control characters are the category Cc.
-/

namespace MailMerge.Text

/-- The code points with the property White_Space, as closed ranges. -/
def blankRanges : List (Nat × Nat) :=
  [(0x09, 0x0D), (0x20, 0x20), (0x85, 0x85), (0xA0, 0xA0), (0x1680, 0x1680),
    (0x2000, 0x200A), (0x2028, 0x2029), (0x202F, 0x202F), (0x205F, 0x205F),
    (0x3000, 0x3000)]

def isBlank (c : Char) : Bool :=
  blankRanges.any fun range => range.1 ≤ c.toNat && c.toNat ≤ range.2

/-- Control characters are the code points below the space and those from DEL to 0x9F. -/
def isControl (c : Char) : Bool :=
  c.toNat < 0x20 || (0x7F ≤ c.toNat && c.toNat < 0xA0)

/-- ASCII white space proper to markup: tab, line feed, form feed, carriage return, space. -/
def isMarkupBlank (c : Char) : Bool :=
  c = ' ' || c = '\t' || c = '\n' || c = '\x0c' || c = '\r'

def trimStart (cs : List Char) : List Char :=
  cs.dropWhile isBlank

def trimEnd (cs : List Char) : List Char :=
  (cs.reverse.dropWhile isBlank).reverse

/-- Text without the white space at its two ends. -/
def trim (text : String) : String :=
  String.ofList (trimEnd (trimStart text.toList))

/-- The number of bytes that a text takes in UTF-8. -/
def width : List Char → Nat
  | [] => 0
  | c :: cs => c.utf8Size + width cs

@[simp]
theorem width_nil : width [] = 0 := rfl

@[simp]
theorem width_cons (c : Char) (cs : List Char)
    : width (c :: cs) = c.utf8Size + width cs :=
  rfl

@[simp]
theorem width_append (front back : List Char)
    : width (front ++ back) = width front + width back := by
  induction front with
  | nil => simp
  | cons c cs ih => simp only [List.cons_append, width_cons, ih, Nat.add_assoc]

end MailMerge.Text
