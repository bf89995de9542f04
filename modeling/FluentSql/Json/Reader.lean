import FluentSql.Json.Number
import FluentSql.Text.Hex

/-! # Reading JSON

`Json.parse?` reads a text that holds one value, with white space around its tokens.  Every step
of the reader consumes a character, so the length of the text bounds the number of steps. -/

namespace FluentSql

namespace Json

/-- The text after the white space at its start. -/
def skipSpace (cs : List Char) : List Char :=
  cs.dropWhile fun c => c = ' ' ∨ c = '\n' ∨ c = '\t' ∨ c = '\r'

/-- The number written with four hexadecimal digits. -/
def hexUnit? (a b c d : Char) : Option Nat := Text.hexNumber? [a, b, c, d]

/-- The character that stands for a one-letter escape. -/
def simpleEscape? (c : Char) : Option Char :=
  if c = '"' ∨ c = '\\' ∨ c = '/' then some c
  else if c = 'b' then some '\x08'
  else if c = 'f' then some '\x0c'
  else if c = 'n' then some '\n'
  else if c = 'r' then some '\r'
  else if c = 't' then some '\t'
  else none

/-- The character for a pair of surrogate units. -/
def surrogatePair? (high low : Nat) : Option Char :=
  if 0xD800 ≤ high ∧ high < 0xDC00 ∧ 0xDC00 ≤ low ∧ low < 0xE000 then
    some (Char.ofNat (0x10000 + (high - 0xD800) * 0x400 + (low - 0xDC00)))
  else none

/-- Whether a unit stands for a character of its own. -/
def isScalarUnit (n : Nat) : Bool := n < 0xD800 || 0xDFFF < n

/-- Reads the rest of a string after its opening quote. -/
def readString? : Nat → List Char → Option (List Char × List Char)
  | 0, _ => none
  | fuel + 1, cs =>
      match cs with
      | '"' :: rest => some ([], rest)
      | '\\' :: 'u' :: a :: b :: c :: d :: rest => do
          let unit ← hexUnit? a b c d
          if isScalarUnit unit then
            let (s, rest) ← readString? fuel rest
            some (Char.ofNat unit :: s, rest)
          else
            match rest with
            | '\\' :: 'u' :: a :: b :: c :: d :: rest =>
                let ch ← surrogatePair? unit (← hexUnit? a b c d)
                let (s, rest) ← readString? fuel rest
                some (ch :: s, rest)
            | _ => none
      | '\\' :: c :: rest => do
          let ch ← simpleEscape? c
          let (s, rest) ← readString? fuel rest
          some (ch :: s, rest)
      | c :: rest =>
          if c.toNat < 0x20 then none
          else do
            let (s, rest) ← readString? fuel rest
            some (c :: s, rest)
      | [] => none

mutual

/-- Reads a value from the start of a text. -/
def readValue? : Nat → List Char → Option (Json × List Char)
  | 0, _ => none
  | fuel + 1, cs =>
      match skipSpace cs with
      | 'n' :: 'u' :: 'l' :: 'l' :: rest => some (.null, rest)
      | 't' :: 'r' :: 'u' :: 'e' :: rest => some (.bool true, rest)
      | 'f' :: 'a' :: 'l' :: 's' :: 'e' :: rest => some (.bool false, rest)
      | '"' :: rest => do
          let (s, rest) ← readString? fuel rest
          some (.string (String.ofList s), rest)
      | '[' :: rest =>
          match skipSpace rest with
          | ']' :: rest => some (.array [], rest)
          | _ => do
              let (items, rest) ← readItems? fuel rest
              some (.array items, rest)
      | '\x7b' :: rest =>
          match skipSpace rest with
          | '\x7d' :: rest => some (.object [], rest)
          | _ => do
              let (members, rest) ← readMembers? fuel rest
              some (ofMembers members, rest)
      | cs => readNumber? cs

/-- Reads the items of an array up to its closing bracket. -/
def readItems? : Nat → List Char → Option (List Json × List Char)
  | 0, _ => none
  | fuel + 1, cs => do
      let (v, rest) ← readValue? fuel cs
      match skipSpace rest with
      | ',' :: rest =>
          let (vs, rest) ← readItems? fuel rest
          some (v :: vs, rest)
      | ']' :: rest => some ([v], rest)
      | _ => none

/-- Reads the members of an object up to its closing brace. -/
def readMembers? : Nat → List Char → Option (List (String × Json) × List Char)
  | 0, _ => none
  | fuel + 1, cs =>
      match skipSpace cs with
      | '"' :: rest => do
          let (name, rest) ← readString? fuel rest
          match skipSpace rest with
          | ':' :: rest =>
              let (v, rest) ← readValue? fuel rest
              match skipSpace rest with
              | ',' :: rest =>
                  let (members, rest) ← readMembers? fuel rest
                  some ((String.ofList name, v) :: members, rest)
              | '\x7d' :: rest => some ([(String.ofList name, v)], rest)
              | _ => none
          | _ => none
      | _ => none

end

/-- The value that a text holds, if it is well formed. -/
def parse? (s : String) : Option Json :=
  let cs := s.toList
  match readValue? (cs.length + 1) cs with
  | some (v, rest) => if skipSpace rest = [] then some v else none
  | none => none

end Json

end FluentSql
