/-!
# Numbers in text

Decimal numbers of fixed ranges, with an optional sign. Nothing else may stand around the digits.
-/

namespace Apprentice.Text

def digitValue (c : Char) : Nat :=
  c.toNat - '0'.toNat

/-- The number that a run of digits stands for. -/
def digitsValue (digits : List Char) : Nat :=
  digits.foldl (fun n c => n * 10 + digitValue c) 0

/-- The value of a hexadecimal digit, in either case. -/
def hexValue? (c : Char) : Option Nat :=
  if c.isDigit then some (c.toNat - 48)
  else if 'a' ≤ c ∧ c ≤ 'f' then some (c.toNat - 87)
  else if 'A' ≤ c ∧ c ≤ 'F' then some (c.toNat - 55)
  else none

/-- Reads one or more digits and nothing else. -/
def readDigits? (cs : List Char) : Option Nat :=
  if !cs.isEmpty && cs.all Char.isDigit then some (digitsValue cs) else none

/-- Reads digits that may have a plus sign. -/
def readNat? : List Char → Option Nat
  | '+' :: cs => readDigits? cs
  | cs => readDigits? cs

/-- Reads digits that may have a sign. -/
def readInt? : List Char → Option Int
  | '-' :: cs => (readDigits? cs).map fun n => -(n : Int)
  | cs => (readNat? cs).map Int.ofNat

def readUInt64? (text : String) : Option Nat :=
  (readNat? text.toList).filter fun n => n < UInt64.size

def readInt32? (text : String) : Option Int :=
  (readInt? text.toList).filter fun n =>
    Int32.minValue.toInt ≤ n && n ≤ Int32.maxValue.toInt

def readInt64? (text : String) : Option Int64 :=
  ((readInt? text.toList).filter fun n =>
    Int64.minValue.toInt ≤ n && n ≤ Int64.maxValue.toInt).map Int64.ofInt

end Apprentice.Text
