import FluentSql.Text.Blank

/-! # Keywords

A type of keywords lists its members with the word that each is written as.  `Keyword.parse?`
finds the member for a word, without regard to the case of ASCII letters and to blanks around
the word.  Words that differ in more than case name different keywords.

The operators of conditions come with the two properties that decide how a condition is recorded:
whether the right side is a list (`Operator.isMembership`) and whether the operator excludes what
matches (`Operator.isNegated`).  A `Conjunction` links a condition to the one before it. -/

namespace FluentSql

/-- A finite type of SQL words. -/
class Keyword (α : Type) where
  /-- The members, in the order in which a word is looked up. -/
  all : List α
  /-- The word of a member. -/
  token : α → String

namespace Keyword

/-- The word with its ASCII letters in lower case. -/
def foldCase (s : String) : List Char := s.toList.map Char.toLower

/-- The first keyword whose word is `s`, blanks and case aside. -/
def parse? {α : Type} [Keyword α] (s : String) : Option α :=
  (all : List α).find? fun k => foldCase (token k) = foldCase (Text.trim s)

end Keyword

/-! ### Operators and conjunctions -/

/-- A relational or arithmetic operator. -/
inductive Operator where
  | eq | notEq | lessOrEq | greaterOrEq | less | greater
  | like | ilike | notLike
  | between | notBetween
  | isIn | notIn | globalIn | globalNotIn
  | and | or | concat | lambda
  | divide | modulo | multiply | plus | minus
deriving DecidableEq, Repr

namespace Operator

/-- The operator as written. -/
def token : Operator → String
  | eq => "="
  | notEq => "!="
  | lessOrEq => "<="
  | greaterOrEq => ">="
  | less => "<"
  | greater => ">"
  | like => "LIKE"
  | ilike => "ILIKE"
  | notLike => "NOT LIKE"
  | between => "BETWEEN"
  | notBetween => "NOT BETWEEN"
  | isIn => "IN"
  | notIn => "NOT IN"
  | globalIn => "GLOBAL IN"
  | globalNotIn => "GLOBAL NOT IN"
  | and => "AND"
  | or => "OR"
  | concat => "||"
  | lambda => "->"
  | divide => "/"
  | modulo => "%"
  | multiply => "*"
  | plus => "+"
  | minus => "-"

instance : Keyword Operator where
  all :=
    [eq, notEq, lessOrEq, greaterOrEq, less, greater, like, ilike, notLike, between, notBetween,
     isIn, notIn, globalIn, globalNotIn, and, or, concat, lambda, divide, modulo, multiply, plus,
     minus]
  token := token

/-- Whether the right side is a list, a sub-query or a table. -/
def isMembership : Operator → Bool
  | isIn | notIn | globalIn | globalNotIn => true
  | _ => false

/-- Whether the operator excludes what matches. -/
def isNegated : Operator → Bool
  | notEq | notLike | notBetween | notIn | globalNotIn => true
  | _ => false

end Operator

/-- The link between a condition and the one before it. -/
inductive Conjunction where
  | and
  | or
deriving DecidableEq, Repr

namespace Conjunction

/-- The conjunction as written. -/
def token : Conjunction → String
  | and => "AND"
  | or => "OR"

instance : Keyword Conjunction where
  all := [and, or]
  token := token

end Conjunction

/-! ### Join modifiers and sort directions -/

/-- Whether a join keeps all matches of a row or any one of them. -/
inductive JoinStrictness where
  | all | any
deriving DecidableEq, Repr

namespace JoinStrictness

/-- The strictness as written. -/
def token : JoinStrictness → String
  | all => "ALL"
  | any => "ANY"

instance : Keyword JoinStrictness where
  all := [all, any]
  token := token

end JoinStrictness

/-- What a join does with rows that have no match. -/
inductive JoinKind where
  | inner | left | right | full | cross | asof
deriving DecidableEq, Repr

namespace JoinKind

/-- The kind as written. -/
def token : JoinKind → String
  | inner => "INNER"
  | left => "LEFT"
  | right => "RIGHT"
  | full => "FULL"
  | cross => "CROSS"
  | asof => "ASOF"

instance : Keyword JoinKind where
  all := [inner, left, right, full, cross, asof]
  token := token

end JoinKind

/-- The direction of a sort. -/
inductive Direction where
  | asc | desc
deriving DecidableEq, Repr

namespace Direction

/-- The direction as written. -/
def token : Direction → String
  | asc => "ASC"
  | desc => "DESC"

instance : Keyword Direction where
  all := [asc, desc]
  token := token

end Direction

/-! ### Formats of rows -/

/-- A format of rows. -/
inductive Format where
  | blockTabSeparated | csv | csvWithNames | json | jsonCompact | jsonEachRow
  | native | null
  | pretty | prettyCompact | prettyCompactMonoBlock | prettyNoEscapes | prettyCompactNoEscapes
  | prettySpaceNoEscapes | prettySpace
  | rowBinary
  | tabSeparated | tabSeparatedRaw | tabSeparatedWithNames | tabSeparatedWithNamesAndTypes
  | tskv | values | vertical | xml | tsv
deriving DecidableEq, Repr

namespace Format

/-- The name of the format. -/
def token : Format → String
  | blockTabSeparated => "BlockTabSeparated"
  | csv => "CSV"
  | csvWithNames => "CSVWithNames"
  | json => "JSON"
  | jsonCompact => "JSONCompact"
  | jsonEachRow => "JSONEachRow"
  | native => "Native"
  | null => "Null"
  | pretty => "Pretty"
  | prettyCompact => "PrettyCompact"
  | prettyCompactMonoBlock => "PrettyCompactMonoBlock"
  | prettyNoEscapes => "PrettyNoEscapes"
  | prettyCompactNoEscapes => "PrettyCompactNoEscapes"
  | prettySpaceNoEscapes => "PrettySpaceNoEscapes"
  | prettySpace => "PrettySpace"
  | rowBinary => "RowBinary"
  | tabSeparated => "TabSeparated"
  | tabSeparatedRaw => "TabSeparatedRaw"
  | tabSeparatedWithNames => "TabSeparatedWithNames"
  | tabSeparatedWithNamesAndTypes => "TabSeparatedWithNamesAndTypes"
  | tskv => "TSKV"
  | values => "Values"
  | vertical => "Vertical"
  | xml => "XML"
  | tsv => "TSV"

instance : Keyword Format where
  all :=
    [blockTabSeparated, csv, csvWithNames, json, jsonCompact, jsonEachRow, native, null, pretty,
     prettyCompact, prettyCompactMonoBlock, prettyNoEscapes, prettyCompactNoEscapes,
     prettySpaceNoEscapes, prettySpace, rowBinary, tabSeparated, tabSeparatedRaw,
     tabSeparatedWithNames, tabSeparatedWithNamesAndTypes, tskv, values, vertical, xml, tsv]
  token := token

end Format

end FluentSql
