import FluentSql.Client.Basic

/-! # A client that answers by rules

A scripted client keeps a record of its calls and answers each by the first rule that matches it.
A rule can ask for a statement, for the number of the call among those of its kind, or for both.
A call without a rule succeeds. -/

namespace FluentSql

/-- What a rule makes of a call. -/
inductive ScriptEffect (α : Type) where
  | hang
  | fail (text : String)
  | reply (x : α)

/-- An answer for the calls that match. -/
structure ScriptRule (α : Type) where
  sql : Option String := none
  /-- The number of the call, counted from zero. -/
  number : Option Nat := none
  effect : ScriptEffect α

/-- A call that writes. -/
structure WriteCall where
  sql : String
  payload : Option Payload
deriving DecidableEq

/-- The calls that a client has received, in order. -/
structure Transcript where
  selects : List CompiledQuery := []
  writes : List WriteCall := []
deriving DecidableEq

namespace ScriptRule

variable {α : Type}

/-- Whether the rule is for the statement and the number of a call. -/
def isFor (r : ScriptRule α) (sql : String) (number : Nat) : Bool :=
  (r.sql.isNone || r.sql = some sql) && (r.number.isNone || r.number = some number)

/-- The reply to a call, by the first rule for it. -/
def replyTo {σ : Type} (rules : List (ScriptRule α)) (default : α) (sql : String) (number : Nat) :
    Reply σ α :=
  match rules.find? fun r => r.isFor sql number with
  | none => .now (.ok default)
  | some r =>
      match r.effect with
      | .hang => .hangs none
      | .fail text => .now (.error (.client text))
      | .reply x => .now (.ok x)

end ScriptRule

/-- The client with the given rules for its two kinds of calls. -/
def Client.scripted (selects : List (ScriptRule RowSet)) (writes : List (ScriptRule Bool)) :
    Client Transcript where
  select q t :=
    (ScriptRule.replyTo selects [] q.sql t.selects.length,
      { t with selects := t.selects ++ [q] })
  write sql payload t :=
    (ScriptRule.replyTo writes true sql t.writes.length,
      { t with writes := t.writes ++ [⟨sql, payload⟩] })

end FluentSql
