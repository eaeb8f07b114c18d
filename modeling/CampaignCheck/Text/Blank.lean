namespace CampaignCheck.Text

/-- A blank: a space of any width, a control that moves to another line or column, or one of the
four information separators. -/
def isBlank (c : Char) : Bool :=
  let n := c.toNat
  (9 ≤ n && n ≤ 13) || (28 ≤ n && n ≤ 32) || n == 0x85 || n == 0xA0 || n == 0x1680 ||
    (0x2000 ≤ n && n ≤ 0x200A) || n == 0x2028 || n == 0x2029 || n == 0x202F || n == 0x205F ||
    n == 0x3000

/-- A blank that may stand around a number: the information separators may not. -/
def isPadding (c : Char) : Bool := isBlank c && !(28 ≤ c.toNat && c.toNat < 32)

def trimLeft (cs : List Char) : List Char := cs.dropWhile isBlank

/-- Drop the characters at the end that satisfy `p`. -/
def dropEndWhile (p : Char → Bool) (cs : List Char) : List Char :=
  (cs.reverse.dropWhile p).reverse

def trimRight (cs : List Char) : List Char := dropEndWhile isBlank cs

/-- Drop blanks at both ends. -/
def trim (cs : List Char) : List Char := trimRight (trimLeft cs)

/-- Drop what may stand around a number at both ends. -/
def trimPadding (cs : List Char) : List Char := dropEndWhile isPadding (cs.dropWhile isPadding)

/-- Drop blanks at both ends of a string. -/
def trimString (s : String) : String := String.ofList (trim s.toList)

def allBlank (cs : List Char) : Bool := cs.all isBlank

end CampaignCheck.Text
