/-!
Words and numbers in a text. Blanks are the characters with the Unicode property `White_Space`.
`trim` takes them off both ends of a text and `words` lists the pieces between them.
-/

namespace Roster.Text

def wideBlanks : List (Nat × Nat) :=
  [(0x85, 0x85), (0xA0, 0xA0), (0x1680, 0x1680), (0x2000, 0x200A), (0x2028, 0x2029),
    (0x202F, 0x202F), (0x205F, 0x205F), (0x3000, 0x3000)]

def isBlank (c : Char) : Bool :=
  let n := c.toNat
  n == 0x20 || (9 ≤ n && n ≤ 13) || wideBlanks.any fun (low, high) => low ≤ n && n ≤ high

def skipBlanks (text : List Char) : List Char := text.dropWhile isBlank

def trimChars (text : List Char) : List Char :=
  (skipBlanks (skipBlanks text).reverse).reverse

def trim (text : String) : String := String.ofList (trimChars text.toList)

def wordChars (text : List Char) : List (List Char) :=
  (text.splitOnP isBlank).filter fun word => !word.isEmpty

def words (text : String) : List String := (wordChars text.toList).map String.ofList

/-!
Whole numbers in decimal. `readNatural` and `readInteger` read a text from left
to right and stop at the first fault, so of a wrong character and a value out of
range the one that stands first is reported.
-/

inductive NumeralFault where
  | empty
  | invalidDigit
  | tooLarge
  | tooSmall
deriving DecidableEq, Repr

def NumeralFault.message : NumeralFault → String
  | .empty => "cannot parse integer from empty string"
  | .invalidDigit => "invalid digit found in string"
  | .tooLarge => "number too large to fit in target type"
  | .tooSmall => "number too small to fit in target type"

def digitValue? (c : Char) : Option Nat :=
  if c.isDigit then some (c.toNat - 48) else none

/-- Reads digits behind a number already read. `overflow` is reported at the
digit that leads past `limit`. -/
def readDigits (limit : Nat) (overflow : NumeralFault) : Nat → List Char → Except NumeralFault Nat
  | value, [] => .ok value
  | value, c :: rest =>
    match digitValue? c with
    | none => .error .invalidDigit
    | some digit =>
      if limit < value * 10 + digit then .error overflow
      else readDigits limit overflow (value * 10 + digit) rest

/-- A number from 0 to `limit`, with an optional `+`. -/
def readNatural (limit : Nat) (text : List Char) : Except NumeralFault Nat :=
  match text with
  | [] => .error .empty
  | ['+'] => .error .invalidDigit
  | '+' :: digits => readDigits limit .tooLarge 0 digits
  | digits => readDigits limit .tooLarge 0 digits

def readInteger (limit : Nat) (text : List Char) : Except NumeralFault Int :=
  match text with
  | [] => .error .empty
  | ['+'] => .error .invalidDigit
  | ['-'] => .error .invalidDigit
  | '-' :: digits => (readDigits (limit + 1) .tooSmall 0 digits).map fun n => -(n : Int)
  | '+' :: digits => (readDigits limit .tooLarge 0 digits).map fun n => (n : Int)
  | digits => (readDigits limit .tooLarge 0 digits).map fun n => (n : Int)

def digits (n : Nat) : List Char := Nat.toDigits 10 n

def padded (width n : Nat) : List Char :=
  List.replicate (width - (digits n).length) '0' ++ digits n

end Roster.Text
