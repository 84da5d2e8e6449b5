import Apprentice.Json.Basic
import Apprentice.Parsed
import Apprentice.Text.Number

/-!
# Reading JSON

The reader accepts one value with blanks around it and nothing else. It only says whether a text is
JSON: the wording of what is wrong with a text is no part of any answer.
-/

namespace Apprentice.Json

def isSpace (c : Char) : Bool :=
  c == ' ' || c == '\n' || c == '\t' || c == '\r'

def skipSpace (cs : List Char) : List Char :=
  cs.dropWhile isSpace

theorem length_skipSpace_le (cs : List Char) : (skipSpace cs).length ≤ cs.length :=
  (List.dropWhile_sublist isSpace).length_le

theorem length_lt_of_skipSpace {cs rest : List Char} {c : Char} (h : skipSpace cs = c :: rest) :
    rest.length < cs.length := by
  have hskip := length_skipSpace_le cs
  rw [h] at hskip
  exact hskip

/-! ### Strings -/

def hexValue4? (a b c d : Char) : Option Nat := do
  let a ← Text.hexValue? a
  let b ← Text.hexValue? b
  let c ← Text.hexValue? c
  let d ← Text.hexValue? d
  return ((a * 16 + b) * 16 + c) * 16 + d

def isHighSurrogate (unit : Nat) : Bool :=
  0xD800 ≤ unit && unit < 0xDC00

def isLowSurrogate (unit : Nat) : Bool :=
  0xDC00 ≤ unit && unit < 0xE000

/-- The character of a surrogate pair. -/
def pairChar (high low : Nat) : Char :=
  Char.ofNat (0x10000 + (high - 0xD800) * 0x400 + (low - 0xDC00))

/-- The escapes of one letter. -/
def escaped? : Char → Option Char
  | '"' => some '"'
  | '\\' => some '\\'
  | '/' => some '/'
  | 'b' => some '\x08'
  | 'f' => some '\x0c'
  | 'n' => some '\n'
  | 'r' => some '\r'
  | 't' => some '\t'
  | _ => none

/-- The low half of a pair, escaped at the front of a text, and what follows it. -/
def lowHalf? : List Char → Option (Nat × List Char)
  | '\\' :: 'u' :: a :: b :: c :: d :: rest => do
    let unit ← hexValue4? a b c d
    if isLowSurrogate unit then some (unit, rest) else none
  | _ => none

theorem length_lowHalf?_lt {cs rest : List Char} {unit : Nat}
    (h : lowHalf? cs = some (unit, rest)) : rest.length < cs.length := by
  unfold lowHalf? at h
  split at h
  · simp only [Option.bind_eq_bind, Option.bind_eq_some_iff] at h
    obtain ⟨_, _, h⟩ := h
    split at h
    · simp only [Option.some.injEq, Prod.mk.injEq] at h
      simp only [← h.2, List.length_cons]
      omega
    · simp at h
  · simp at h

/-- The text of a string up to its closing quote, if it has one. -/
def stringTail (cs : List Char) : Option (Parsed Char (Option (List Char)) cs.length) :=
  match cs with
  | '"' :: rest => some ⟨some [], rest, by simp⟩
  | '\\' :: 'u' :: a :: b :: c :: d :: rest => do
    let unit ← hexValue4? a b c d
    if isHighSurrogate unit then
      match h : lowHalf? rest with
      | some (low, after) =>
        have := length_lowHalf?_lt h
        let tail ← stringTail after
        return ⟨tail.value.map (pairChar unit low :: ·), tail.rest,
          Nat.lt_add_right 6 (Nat.lt_trans tail.shorter this)⟩
      | none =>
        let tail ← stringTail rest
        return ⟨none, tail.rest, Nat.lt_add_right 6 tail.shorter⟩
    else
      let tail ← stringTail rest
      let text := if isLowSurrogate unit then none else tail.value.map (Char.ofNat unit :: ·)
      return ⟨text, tail.rest, Nat.lt_add_right 6 tail.shorter⟩
  | '\\' :: letter :: rest => do
    let c ← escaped? letter
    let tail ← stringTail rest
    return ⟨tail.value.map (c :: ·), tail.rest, Nat.lt_add_right 2 tail.shorter⟩
  | c :: rest =>
    if c.toNat < 0x20 || c == '\\' then none
    else do
      let tail ← stringTail rest
      return ⟨tail.value.map (c :: ·), tail.rest, Nat.lt_succ_of_lt tail.shorter⟩
  | [] => none
termination_by cs.length

/-! ### Numbers -/

/-- One or more digits at the front of a text. -/
def digits? (cs : List Char) : Option (List Char × List Char) :=
  let digits := cs.takeWhile Char.isDigit
  if digits.isEmpty then none else some (digits, cs.dropWhile Char.isDigit)

/-- A number at the front of a text: a sign, an integer without needless zeros, a fraction and an
exponent, of which only the integer has to be there. -/
def number? (cs : List Char) : Option (List Char × List Char) := do
  let (sign, cs) := if cs.head? == some '-' then (['-'], cs.drop 1) else ([], cs)
  let (whole, cs) ← digits? cs
  guard (whole.length == 1 || whole.head? != some '0')
  let (fraction, cs) ←
    match cs with
    | '.' :: rest => (digits? rest).map fun (digits, rest) => ('.' :: digits, rest)
    | _ => some ([], cs)
  let (exponent, cs) ←
    match cs with
    | e :: rest =>
      if e == 'e' || e == 'E' then
        let (sign, rest) :=
          match rest with
          | '+' :: rest => (['+'], rest)
          | '-' :: rest => (['-'], rest)
          | _ => ([], rest)
        (digits? rest).map fun (digits, rest) => (e :: sign ++ digits, rest)
      else some ([], cs)
    | [] => some ([], cs)
  return (sign ++ whole ++ fraction ++ exponent, cs)

/-! ### Values -/

/-- Passes over a word that is written out, such as `null`. -/
def word? (word : List Char) (cs : List Char) : Option (List Char) :=
  if word.isPrefixOf cs then some (cs.drop word.length) else none

mutual

/-- A value at the front of a text, which starts with no blank. -/
def value (cs : List Char) : Option (Parsed Char Json cs.length) :=
  match cs with
  | '"' :: rest => do
    let text ← stringTail rest
    return ⟨.string (text.value.map String.ofList), text.rest, Nat.lt_succ_of_lt text.shorter⟩
  | '[' :: rest =>
    have hskip := length_skipSpace_le rest
    match h : skipSpace rest with
    | ']' :: after =>
      some ⟨.array [], after, Nat.lt_succ_of_lt (length_lt_of_skipSpace h)⟩
    | _ => do
      let items ← itemsTail (skipSpace rest)
      return ⟨.array items.value, items.rest,
        Nat.lt_succ_of_lt (Nat.lt_of_lt_of_le items.shorter hskip)⟩
  | '\x7b' :: rest =>
    have hskip := length_skipSpace_le rest
    match h : skipSpace rest with
    | '\x7d' :: after =>
      some ⟨.object [], after, Nat.lt_succ_of_lt (length_lt_of_skipSpace h)⟩
    | _ => do
      let members ← membersTail (skipSpace rest)
      return ⟨.object members.value, members.rest,
        Nat.lt_succ_of_lt (Nat.lt_of_lt_of_le members.shorter hskip)⟩
  | cs =>
    let word := fun (name : String) (meaning : Json) =>
      (word? name.toList cs).map fun rest => (meaning, rest)
    let found := (word "null" .null).or <| (word "true" (.bool true)).or <|
      (word "false" (.bool false)).or <|
      (number? cs).map fun (digits, rest) => (.number (String.ofList digits), rest)
    found.bind fun (meaning, rest) =>
      if h : rest.length < cs.length then some ⟨meaning, rest, h⟩ else none
termination_by (cs.length, 0)

/-- The items of an array up to its closing bracket; there is at least one. -/
def itemsTail (cs : List Char) : Option (Parsed Char (List Json) cs.length) := do
  let first ← value cs
  match h : skipSpace first.rest with
  | ']' :: rest =>
    return ⟨[first.value], rest, Nat.lt_trans (length_lt_of_skipSpace h) first.shorter⟩
  | ',' :: rest =>
    have hskip := length_skipSpace_le rest
    have hrest := Nat.lt_trans (length_lt_of_skipSpace h) first.shorter
    let others ← itemsTail (skipSpace rest)
    return ⟨first.value :: others.value, others.rest,
      Nat.lt_trans (Nat.lt_of_lt_of_le others.shorter hskip) hrest⟩
  | _ => none
termination_by (cs.length, 1)

/-- The members of an object up to its closing brace; there is at least one. -/
def membersTail (cs : List Char) :
    Option (Parsed Char (List (Option String × Json)) cs.length) :=
  match cs with
  | '"' :: cs => do
    let key ← stringTail cs
    match hcolon : skipSpace key.rest with
    | ':' :: rest =>
      have hvalue := length_skipSpace_le rest
      have hkey := Nat.lt_trans (length_lt_of_skipSpace hcolon) key.shorter
      let first ← value (skipSpace rest)
      have hfirst := Nat.lt_trans (Nat.lt_of_lt_of_le first.shorter hvalue) hkey
      let member := (key.value.map String.ofList, first.value)
      match h : skipSpace first.rest with
      | '\x7d' :: rest =>
        return ⟨[member], rest,
          Nat.lt_succ_of_lt (Nat.lt_trans (length_lt_of_skipSpace h) hfirst)⟩
      | ',' :: rest =>
        have hskip := length_skipSpace_le rest
        have hrest := Nat.lt_trans (length_lt_of_skipSpace h) hfirst
        let others ← membersTail (skipSpace rest)
        return ⟨member :: others.value, others.rest,
          Nat.lt_succ_of_lt (Nat.lt_trans (Nat.lt_of_lt_of_le others.shorter hskip) hrest)⟩
      | _ => none
    | _ => none
  | _ => none
termination_by (cs.length, 1)

end

/-- Reads a text that holds one value. -/
def parse? (text : String) : Option Json := do
  let whole ← value (skipSpace text.toList)
  if (skipSpace whole.rest).isEmpty then some whole.value else none

end Apprentice.Json
