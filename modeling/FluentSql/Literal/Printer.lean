import FluentSql.Literal.Basic

/-! # SQL text of literals

Texts are quoted and escaped, names are in backticks, raw pieces are written as they are, and an
array lists its items between square brackets.  A string literal stands between single quotes, with
a backslash in front of each quote of either kind and of each backslash, and NUL written as a
backslash and a zero (`Text.quote`). -/

namespace FluentSql

namespace Text

/-- The characters written for one character of a string literal. -/
def escapeChar (c : Char) : List Char :=
  if c = '\'' ∨ c = '"' ∨ c = '\\' then ['\\', c]
  else if c = '\x00' then ['\\', '0']
  else [c]

/-- The inside of the literal for `cs`. -/
def escape (cs : List Char) : List Char := cs.flatMap escapeChar

/-- The string literal for `s`. -/
def quote (s : String) : String := "'" ++ String.ofList (escape s.toList) ++ "'"

@[simp] theorem escape_nil : escape [] = [] := rfl

@[simp] theorem escape_cons (c : Char) (cs : List Char) :
    escape (c :: cs) = escapeChar c ++ escape cs := rfl

@[simp] theorem escape_append (as bs : List Char) : escape (as ++ bs) = escape as ++ escape bs := by
  simp [escape]

@[simp] theorem toList_quote (s : String) :
    (quote s).toList = '\'' :: (escape s.toList ++ ['\'']) := by
  simp [quote]

end Text

namespace Value

mutual

/-- The value as an SQL literal. -/
def sql : Value → String
  | .null => "null"
  | .bool b => if b then "true" else "false"
  | .int n => toString n.toInt
  | .uint n => toString n.toNat
  | .float x => x.sqlText
  | .string s => Text.quote s
  | .identifier id => id.quoted
  | .raw sql => sql
  | .array items => "[" ++ Text.commaList (sqlList items) ++ "]"

/-- The literals of several values. -/
def sqlList : List Value → List String
  | [] => []
  | v :: vs => v.sql :: sqlList vs

end

theorem sqlList_eq_map (vs : List Value) : sqlList vs = vs.map sql := by
  induction vs with
  | nil => rfl
  | cons v vs ih => simp [sqlList, ih]

end Value

/-- The elements, separated by commas, without brackets. -/
def Tuple.sql (t : Tuple) : String := Text.commaList (Value.sqlList t.elements)

/-- The call that looks up a field of a dictionary entry.  A key of several parts is given as
an array. -/
def dictionaryLookup (dictionary field : String) (key : Value) : String :=
  let keyText :=
    match key with
    | .array parts => "tuple(" ++ Text.commaList (Value.sqlList parts) ++ ")"
    | v => v.sql
  "dictGetString(" ++ Text.commaList [Text.quote dictionary, Text.quote field, keyText] ++ ")"

end FluentSql
