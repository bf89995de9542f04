import FluentSql.Text.Blank

/-! # Identifiers

An `Identifier` is the name of a database, table, column or alias, as the user wrote it.  The raw
text has a little structure.  Dots separate the parts of a qualified name, and the word `as`
between blanks, in any case, separates a name from its alias; the first such word counts.
`quoted` gives each name backticks, with a backtick in the name written twice; only a lone `*`
stays bare. -/

namespace FluentSql

/-- A name as the user wrote it. -/
structure Identifier where
  raw : String
deriving DecidableEq, Repr

namespace Identifier

/-! ### Alias separators -/

/-- Whether `c` is the letter a in either case. -/
def isLetterA (c : Char) : Bool := c = 'a' || c = 'A'

/-- Whether `c` is the letter s in either case; the long s counts as one. -/
def isLetterS (c : Char) : Bool := c = 's' || c = 'S' || c = 'ſ'

/-- The text after the word `as` and the blanks behind it, if `cs` starts with them after any
number of blanks. -/
def afterSeparator? (cs : List Char) : Option (List Char) :=
  match cs.dropWhile Text.isBlank with
  | a :: s :: b :: rest =>
      if isLetterA a && isLetterS s && Text.isBlank b then some (rest.dropWhile Text.isBlank)
      else none
  | _ => none

/-- The texts before and after the first alias separator. -/
def cutAlias? : List Char → Option (List Char × List Char)
  | [] => none
  | c :: cs =>
      match if Text.isBlank c then afterSeparator? cs else none with
      | some after => some ([], after)
      | none => (cutAlias? cs).map fun halves => (c :: halves.1, halves.2)

/-- The name and the alias, each without blanks at its ends, of a text with an alias. -/
def splitChars? (cs : List Char) : Option (List Char × List Char) :=
  (cutAlias? cs).map fun halves => (Text.trimChars halves.1, Text.trimChars halves.2)

/-- The name and the alias of an identifier that carries one. -/
def splitAlias? (id : Identifier) : Option (Identifier × Identifier) :=
  (splitChars? id.raw.toList).map fun halves =>
    (⟨String.ofList halves.1⟩, ⟨String.ofList halves.2⟩)

/-! ### Quoting -/

/-- The quote around a name. -/
def backtick : Char := '\x60'

/-- The inside of a quoted name: backticks are doubled. -/
def doubleBackticks (cs : List Char) : List Char :=
  cs.flatMap fun c => if c = backtick then [backtick, backtick] else [c]

theorem doubleBackticks_nil : doubleBackticks [] = [] := rfl

theorem doubleBackticks_cons_of_ne {c : Char} (hc : c ≠ backtick) (cs : List Char) :
    doubleBackticks (c :: cs) = c :: doubleBackticks cs := by
  simp [doubleBackticks, hc]

theorem doubleBackticks_cons_backtick (cs : List Char) :
    doubleBackticks (backtick :: cs) = backtick :: backtick :: doubleBackticks cs := by
  simp [doubleBackticks]

/-- A name in backticks, or a bare `*`. -/
def quoteName (cs : List Char) : List Char :=
  if cs = ['*'] then cs else backtick :: (doubleBackticks cs ++ [backtick])

/-- A part of a qualified name, with its alias if it carries one. -/
def quotePart (cs : List Char) : List Char :=
  match splitChars? cs with
  | some (name, aliasName) => quoteName name ++ " AS ".toList ++ quoteName aliasName
  | none => quoteName cs

/-- The pieces of a text between its dots; there is always at least one. -/
def pieces (cs : List Char) : List (List Char) := cs.splitOn '.'

/-- The quoted form of a raw text.  The parts of a qualified name lose the blanks at their ends, a
name without a dot keeps them. -/
def quoteChars (cs : List Char) : List Char :=
  match pieces cs with
  | [_] => quotePart cs
  | parts => ['.'].intercalate (parts.map fun part => quotePart (Text.trimChars part))

/-- The identifier as it stands in SQL. -/
def quoted (id : Identifier) : String := String.ofList (quoteChars id.raw.toList)

/-- Several names, quoted and separated by commas. -/
def quotedList (ids : List Identifier) : String := Text.commaList (ids.map quoted)

end Identifier

end FluentSql
