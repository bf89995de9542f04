import FluentSql.Duration
import FluentSql.Keyword
import FluentSql.Text.Printable

/-! # Errors

What can go wrong when a query is compiled or run, as causes (`QueryError`) with one wording each
(`QueryError.message`).  Structural errors are those of a malformed query; only compiling
reports them. -/

namespace FluentSql

/-- A part that a join must have. -/
inductive JoinPart where
  | table
  | keys
deriving DecidableEq, Repr

/-- The part as named in messages. -/
def JoinPart.name : JoinPart → String
  | table => "table or subquery"
  | keys => "using or on clauses"

/-- Why an argument is refused. -/
inductive ArgumentFault where
  /-- A union was given no query. -/
  | blankUnion
  | noRows
  | mixedRows
  | raggedRows (expected got : Nat)
  | positionalJson
  | identifierInRow (name : String)
  | rawInRow (sql : String)
  | zeroPageSize
  | pageOutOfRange (page : Nat)
  /-- A reason that the caller words. -/
  | other (text : String)
deriving DecidableEq, Repr

/-- The wording of a refusal. -/
def ArgumentFault.message : ArgumentFault → String
  | blankUnion => "Argument for unionAll must be closure or builder instance."
  | noRows => "No rows provided for insert"
  | mixedRows => "Cannot mix named and positional rows in one insert"
  | raggedRows expected got =>
      "Positional rows must have the same length: expected " ++ toString expected ++ ", got " ++
        toString got
  | positionalJson => "Positional rows cannot be serialized as JSON objects"
  | identifierInRow name => "Identifier \x60" ++ name ++ "\x60 cannot be serialized as a row value"
  | rawInRow sql => "Expression \x60" ++ sql ++ "\x60 cannot be serialized as a row value"
  | zeroPageSize => "per_page must be greater than zero"
  | pageOutOfRange page => "page " ++ toString page ++ " is out of range"
  | other text => text

/-- Why the rows of a reply cannot be used. -/
inductive DecodeFault where
  /-- A count is a number that is no unsigned integer, given as written. -/
  | countNotUnsigned (number : String)
  /-- A count is a text that is no unsigned integer. -/
  | countNotNumeric (text : String)
  /-- A count is a value of another kind, given as JSON text. -/
  | countUnexpected (value : String)
  /-- A reason that the caller words. -/
  | other (text : String)
deriving DecidableEq, Repr

/-- The wording of a decoding fault. -/
def DecodeFault.message : DecodeFault → String
  | countNotUnsigned number => "count is not an unsigned integer: " ++ number
  | countNotNumeric text => "count is not numeric: " ++ Text.display text
  | countUnexpected value => "unexpected count value: " ++ value
  | other text => text

/-- What went wrong with a query. -/
inductive QueryError where
  /-- The FROM clause has no table. -/
  | missingFrom
  | missingInsertTable
  /-- A deletion has no condition. -/
  | missingDeleteWhere
  /-- A join lacks parts that it must have. -/
  | wrongJoin (missing : List JoinPart)
  /-- A join has keys of both kinds. -/
  | ambiguousJoinKeys
  | invalidArgument (fault : ArgumentFault)
  /-- A file is to become a table but tells no columns. -/
  | noTableStructure
  | unknownFormat (word : String)
  | unknownOperator (word : String)
  /-- Rows cannot be written in the format. -/
  | unsupportedInsertFormat (format : Format)
  /-- The client failed. -/
  | client (text : String)
  | decode (fault : DecodeFault)
  /-- A row does not have the wanted members. -/
  | serialization
  | timeout (after : Duration)
deriving DecidableEq, Repr

namespace QueryError

/-- The wording of an error. -/
def message : QueryError → String
  | missingFrom => "Missed table or subquery for 'FROM' section."
  | missingInsertTable => "Missed table for insert statement."
  | missingDeleteWhere => "Missed where section for delete statement."
  | wrongJoin missing =>
      "Missed required segments for 'JOIN' section. Missed: " ++
        ", ".intercalate (missing.map JoinPart.name)
  | ambiguousJoinKeys => "Ambiguous join keys: a join may use either USING or ON, not both."
  | invalidArgument fault => fault.message
  | noTableStructure => "No structure provided for insert in memory table"
  | unknownFormat word => "Unknown format: " ++ word
  | unknownOperator word => "Unknown operator: " ++ word
  | unsupportedInsertFormat format =>
      "Format " ++ format.token ++ " is not supported for inserting rows"
  | client text => "Client error: " ++ text
  | decode fault => "Decode error: " ++ fault.message
  | serialization => "Serialization error"
  | timeout after => "Query timeout after " ++ after.text

/-- Whether the error tells of a malformed query. -/
def isStructural : QueryError → Bool
  | missingFrom | missingInsertTable | missingDeleteWhere | wrongJoin _ | ambiguousJoinKeys
  | invalidArgument _ => true
  | _ => false

/-- Whether the error tells of a malformed join. -/
def isJoin : QueryError → Bool
  | wrongJoin _ | ambiguousJoinKeys => true
  | _ => false

/-- Whether a call took too long. -/
def isTimeout : QueryError → Bool
  | timeout _ => true
  | _ => false

end QueryError

/-- A computation that goes on with a result succeeds if both of its steps do. -/
theorem bind_eq_ok {ε α β : Type} {x : Except ε α} {f : α → Except ε β} {b : β} :
    x >>= f = .ok b ↔ ∃ a, x = .ok a ∧ f a = .ok b := by
  cases x <;> simp [bind, Except.bind]

/-! ### Keywords that fail to parse -/

/-- The keyword for a word, or an error with the trimmed word. -/
def Keyword.read {α : Type} [Keyword α] (unknown : String → QueryError) (s : String) :
    Except QueryError α :=
  match Keyword.parse? s with
  | some k => .ok k
  | none => .error (unknown (Text.trim s))

/-- Reads the name of a format. -/
def Format.read (s : String) : Except QueryError Format := Keyword.read .unknownFormat s

/-- Reads an operator, a join modifier or a direction. -/
def Keyword.readOperator {α : Type} [Keyword α] (s : String) : Except QueryError α :=
  Keyword.read .unknownOperator s

end FluentSql
