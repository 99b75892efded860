import ReplicaRouting.Text.Ranges

/-!
White space in the sense of Unicode, and texts without it at their ends.
-/

namespace ReplicaRouting.Text

/-- The characters with the Unicode property White_Space. -/
def blankRanges : Ranges :=
  [(0x9, 0xD), (0x20, 0x20), (0x85, 0x85), (0xA0, 0xA0), (0x1680, 0x1680), (0x2000, 0x200A),
   (0x2028, 0x2029), (0x202F, 0x202F), (0x205F, 0x205F), (0x3000, 0x3000)]

def isBlank (c : Char) : Bool := blankRanges.contains c

def trimStart (text : List Char) : List Char := text.dropWhile isBlank

def trimEnd (text : List Char) : List Char := (text.reverse.dropWhile isBlank).reverse

def trim (text : List Char) : List Char := trimEnd (trimStart text)

/-- Whether the text is white space throughout; the empty text is. -/
def isBlankText (text : List Char) : Bool := text.all isBlank

def trimmed (text : String) : String := String.ofList (trim text.toList)

end ReplicaRouting.Text
