import Apprentice.Text.Number
import Apprentice.Toml.Basic

/-!
# Scalars of TOML

Strings of four kinds, numbers, truth values and dates at the front of a text. Each reader gives
back what it read together with what follows.
-/

namespace Apprentice.Toml

def isSpace (c : Char) : Bool :=
  c == ' ' || c == '\t'

def skipSpace (cs : List Char) : List Char :=
  cs.dropWhile isSpace

/-- What follows the end of a line. -/
def lineBreak? : List Char → Option (List Char)
  | '\n' :: cs => some cs
  | '\r' :: '\n' :: cs => some cs
  | _ => none

/-- The characters of comments, and of strings but for quotes and backslashes. -/
def isPlain (c : Char) : Bool :=
  c == '\t' || (0x20 ≤ c.toNat && c.toNat != 0x7f)

/-! ### Strings -/

/-- The character with a code in hexadecimal digits, of which there have to be the given number. -/
def codeChar? (count : Nat) (digits : List Char) : Option Char := do
  guard (digits.length == count)
  let values ← digits.mapM Text.hexValue?
  let code := values.foldl (fun n value => n * 16 + value) 0
  if code.isValidChar then some (Char.ofNat code) else none

/-- The escapes of one letter. -/
def escaped? : Char → Option Char
  | 'b' => some '\x08'
  | 't' => some '\t'
  | 'n' => some '\n'
  | 'f' => some '\x0c'
  | 'r' => some '\r'
  | '"' => some '"'
  | '\\' => some '\\'
  | _ => none

/-- The character that is escaped after a backslash. -/
def escape? : List Char → Option (Char × List Char)
  | 'u' :: cs => (codeChar? 4 (cs.take 4)).map fun c => (c, cs.drop 4)
  | 'U' :: cs => (codeChar? 8 (cs.take 8)).map fun c => (c, cs.drop 8)
  | letter :: cs => (escaped? letter).map fun c => (c, cs)
  | [] => none

/-- How long a part of an escape is passed over. -/
def escapeLength : List Char → Nat
  | 'u' :: _ => 5
  | 'U' :: _ => 9
  | _ => 1

/-- The text of a string in double quotes up to its end. The first argument counts characters that
belong to an escape and have been read. -/
def basicTail : Nat → List Char → Option (List Char × List Char)
  | _, [] => none
  | skip + 1, _ :: cs => basicTail skip cs
  | 0, '"' :: cs => some ([], cs)
  | 0, '\\' :: cs => do
    let (c, _) ← escape? cs
    let (text, rest) ← basicTail (escapeLength cs) cs
    return (c :: text, rest)
  | 0, c :: cs => do
    guard (isPlain c)
    let (text, rest) ← basicTail 0 cs
    return (c :: text, rest)

/-- The text of a string in single quotes up to its end. -/
def literalTail : List Char → Option (List Char × List Char)
  | [] => none
  | '\'' :: cs => some ([], cs)
  | c :: cs => do
    guard (isPlain c)
    let (text, rest) ← literalTail cs
    return (c :: text, rest)

/-- What follows blanks and line breaks. -/
def skipBreaks : List Char → List Char
  | '\n' :: cs => skipBreaks cs
  | '\r' :: '\n' :: cs => skipBreaks cs
  | c :: cs => if isSpace c then skipBreaks cs else c :: cs
  | [] => []

/-- How many characters a line break, with the blanks and breaks after it, takes up after a
backslash; none, if there is no break. -/
def foldedLength (cs : List Char) : Nat :=
  if (lineBreak? (skipSpace cs)).isSome then cs.length - (skipBreaks cs).length else 0

/-- The text of a string of several lines up to its end, which is three quotes; up to two quotes
before them belong to the text. Line breaks are line feeds in the text. -/
def multilineTail (quote : Char) (escapes : Bool) : Nat → List Char →
    Option (List Char × List Char)
  | _, [] => none
  | skip + 1, _ :: cs => multilineTail quote escapes skip cs
  | 0, c :: cs =>
    let go := fun (added : List Char) (skip : Nat) => do
      let (text, rest) ← multilineTail quote escapes skip cs
      return (added ++ text, rest)
    if c == quote then
      let run := (cs.takeWhile fun other => other == quote).length + 1
      if run < 3 then go [c] 0
      else
        let kept := min run 5 - 3
        some (List.replicate kept quote, cs.drop (kept + 2))
    else if c == '\n' then go [c] 0
    else if c == '\r' then if cs.head? == some '\n' then go [] 0 else none
    else if c == '\\' && escapes then
      let folded := foldedLength cs
      if folded != 0 then go [] folded
      else do
        let (escaped, _) ← escape? cs
        go [escaped] (escapeLength cs)
    else if isPlain c then go [c] 0
    else none

/-- A string of several lines after its opening quotes; a line break right after them is dropped. -/
def multiline (quote : Char) (escapes : Bool) (cs : List Char) :
    Option (List Char × List Char) :=
  multilineTail quote escapes 0 ((lineBreak? cs).getD cs)

/-- A string on one line. -/
def lineString? : List Char → Option (String × List Char)
  | '"' :: cs => (basicTail 0 cs).map fun (text, rest) => (String.ofList text, rest)
  | '\'' :: cs => (literalTail cs).map fun (text, rest) => (String.ofList text, rest)
  | _ => none

def string? : List Char → Option (String × List Char)
  | '"' :: '"' :: '"' :: cs =>
    (multiline '"' true cs).map fun (text, rest) => (String.ofList text, rest)
  | '\'' :: '\'' :: '\'' :: cs =>
    (multiline '\'' false cs).map fun (text, rest) => (String.ofList text, rest)
  | cs => lineString? cs

/-! ### Numbers -/

/-- Digits after a digit, which may be set apart by single underscores. An underscore without a
digit after it is an error. -/
def digitsTail (isDigit : Char → Bool) : List Char → Option (List Char × List Char)
  | [] => some ([], [])
  | '_' :: c :: cs => do
    guard (isDigit c)
    let (digits, rest) ← digitsTail isDigit cs
    return (c :: digits, rest)
  | '_' :: [] => none
  | c :: cs =>
    if isDigit c then do
      let (digits, rest) ← digitsTail isDigit cs
      return (c :: digits, rest)
    else some ([], c :: cs)

/-- One or more digits. -/
def digits? (isDigit : Char → Bool) : List Char → Option (List Char × List Char)
  | c :: cs =>
    if isDigit c then (digitsTail isDigit cs).map fun (digits, rest) => (c :: digits, rest)
    else none
  | [] => none

/-- Whether there is a minus sign, and what follows the sign, if there is one. -/
def sign : List Char → Bool × List Char
  | '+' :: cs => (false, cs)
  | '-' :: cs => (true, cs)
  | cs => (false, cs)

/-- Digits without needless zeros. -/
def wholeNumber? (cs : List Char) : Option (List Char × List Char) :=
  match cs with
  | '0' :: rest => some (['0'], rest)
  | _ => digits? Char.isDigit cs

/-- An integer of the range of 64-bit words. -/
def inRange? (n : Int) (rest : List Char) : Option (Value × List Char) :=
  if Int64.minValue.toInt ≤ n ∧ n ≤ Int64.maxValue.toInt then
    some (.integer (Int64.ofInt n), rest)
  else none

/-- The digits of another base after its prefix. -/
def based? (base : Nat) (cs : List Char) : Option (Value × List Char) := do
  let isDigit := fun (c : Char) => (Text.hexValue? c).any fun value => value < base
  let (digits, rest) ← digits? isDigit cs
  let value := digits.foldl (fun n c => n * base + (Text.hexValue? c).getD 0) 0
  inRange? value rest

/-- Whether digits, shifted by a power of ten, are rounded to more than the greatest floating-point
number of 64 bits. That number has 309 digits, so only numbers of this length are compared with the
bound. -/
def exceedsFloats (digits : List Char) (exponent : Int) : Bool :=
  let digits := digits.dropWhile (· == '0')
  let places := exponent + digits.length
  let bound := Nat.pow 2 1024 - Nat.pow 2 970
  if digits.isEmpty || places < 309 then false
  else if 309 < places then true
  else bound * Nat.pow 10 (-exponent).toNat ≤ Text.digitsValue digits * Nat.pow 10 exponent.toNat

/-- A floating-point number. It must not be too large, but its negative may be. -/
def float? (negative : Bool) (digits : List Char) (exponent : Int) (rest : List Char) :
    Option (Value × List Char) :=
  if !negative && exceedsFloats digits exponent then none else some (.float, rest)

def exponent? (cs : List Char) : Option (Int × List Char) := do
  let (negative, cs) := sign cs
  let (digits, rest) ← digits? Char.isDigit cs
  let size := Text.digitsValue digits
  return (if negative then -size else size, rest)

/-- The number that starts with a whole number: nothing behind it makes it an integer, and half of a
fraction or exponent is an error. -/
def numberTail? (negative : Bool) (whole : List Char) : List Char → Option (Value × List Char)
  | '.' :: cs => do
    let (fraction, rest) ← digits? Char.isDigit cs
    let (exponent, rest) ←
      match rest with
      | 'e' :: rest | 'E' :: rest => exponent? rest
      | _ => some (0, rest)
    float? negative (whole ++ fraction) (exponent - fraction.length) rest
  | 'e' :: cs | 'E' :: cs => do
    let (exponent, rest) ← exponent? cs
    float? negative whole exponent rest
  | cs =>
    let size := Text.digitsValue whole
    inRange? (if negative then -size else size) cs

def decimal? (cs : List Char) : Option (Value × List Char) := do
  let (negative, cs) := sign cs
  match cs with
  | 'i' :: 'n' :: 'f' :: rest => return (.float, rest)
  | 'n' :: 'a' :: 'n' :: rest => return (.float, rest)
  | _ =>
    let (whole, rest) ← wholeNumber? cs
    numberTail? negative whole rest

/-! ### Dates -/

/-- A number of two digits up to a bound. -/
def twoDigits? (least greatest : Nat) : List Char → Option (Nat × List Char)
  | a :: b :: cs => do
    let n ← Text.readDigits? [a, b]
    guard (least ≤ n && n ≤ greatest)
    return (n, cs)
  | _ => none

def character? (c : Char) : List Char → Option (List Char)
  | d :: cs => if c == d then some cs else none
  | [] => none

def isLeapYear (year : Nat) : Bool :=
  year % 4 == 0 && (year % 100 != 0 || year % 400 == 0)

def daysIn (year month : Nat) : Nat :=
  if month == 2 then if isLeapYear year then 29 else 28
  else if month == 4 || month == 6 || month == 9 || month == 11 then 30
  else 31

/-- What follows the seconds of a time of day: perhaps a fraction of them. -/
def secondFraction? : List Char → Option (List Char)
  | '.' :: cs =>
    let rest := cs.dropWhile Char.isDigit
    if rest.length < cs.length then some rest else none
  | cs => some cs

/-- The rest of a time of day after its hour. -/
def timeTail? (cs : List Char) : Option (List Char) := do
  let cs ← character? ':' cs
  let (_, cs) ← twoDigits? 0 59 cs
  let cs ← character? ':' cs
  let (_, cs) ← twoDigits? 0 60 cs
  secondFraction? cs

/-- Whether a text starts with an hour and a colon, which only a time of day does. -/
def startsTime (cs : List Char) : Bool :=
  match twoDigits? 0 23 cs with
  | some (_, ':' :: _) => true
  | _ => false

def time? (cs : List Char) : Option (List Char) := do
  let (_, cs) ← twoDigits? 0 23 cs
  timeTail? cs

/-- The distance from universal time, if there is one. -/
def zone? : List Char → Option (List Char)
  | 'Z' :: cs | 'z' :: cs => some cs
  | '+' :: cs | '-' :: cs => do
    let (_, cs) ← twoDigits? 0 23 cs
    let cs ← character? ':' cs
    let (_, cs) ← twoDigits? 0 59 cs
    return cs
  | cs => some cs

/-- The rest of a date after its year, with a time of day behind it if there is one. -/
def dateTail? (year : Nat) (cs : List Char) : Option (List Char) := do
  let (month, cs) ← twoDigits? 1 12 cs
  let cs ← character? '-' cs
  let (_, cs) ← twoDigits? 1 (daysIn year month) cs
  match cs with
  | c :: rest =>
    if (c == 'T' || c == 't' || c == ' ') && startsTime rest then zone? (← time? rest)
    else return cs
  | [] => return []

/-- A date or a time of day; nothing, if the text starts with neither. -/
def dateTime? (cs : List Char) : Option (Option (List Char)) :=
  match cs with
  | a :: b :: c :: d :: '-' :: rest =>
    (Text.readDigits? [a, b, c, d]).map fun year => dateTail? year rest
  | _ => if startsTime cs then some (time? cs) else none

/-! ### Any scalar -/

/-- A truth value or a number without a sign or digit in front. -/
def word? : List Char → Option (Value × List Char)
  | 't' :: 'r' :: 'u' :: 'e' :: cs => some (.boolean true, cs)
  | 'f' :: 'a' :: 'l' :: 's' :: 'e' :: cs => some (.boolean false, cs)
  | cs => decimal? cs

/-- A value that holds no other values. -/
def scalar? (cs : List Char) : Option (Value × List Char) :=
  match cs with
  | '"' :: _ | '\'' :: _ => (string? cs).map fun (text, rest) => (.string text, rest)
  | '0' :: 'x' :: rest => based? 16 rest
  | '0' :: 'o' :: rest => based? 8 rest
  | '0' :: 'b' :: rest => based? 2 rest
  | _ =>
    match dateTime? cs with
    | some found => found.map fun rest => (.dateTime, rest)
    | none => word? cs

end Apprentice.Toml
