import FluentSql.Client.Basic
import FluentSql.Text.Hex

/-! # Instrumented clients

`Client.instrumented` wraps a client.  It adds default settings to the queries, which the settings
of a query override; it cuts off calls that take too long; and it records each finished call as
a `LogEvent`.  Statements, tables and data pass unchanged, and so do results. -/

namespace FluentSql

/-- How much attention an event asks for. -/
inductive LogLevel where
  | error | warn | info | debug | trace
deriving DecidableEq, Repr

namespace LogLevel

/-- The level as written. -/
def token : LogLevel → String
  | error => "ERROR"
  | warn => "WARN"
  | info => "INFO"
  | debug => "DEBUG"
  | trace => "TRACE"

instance : Keyword LogLevel where
  all := [error, warn, info, debug, trace]
  token := token

/-- The level with a number, from 1 for errors up to 5 for traces. -/
def ofNumber? (n : Nat) : Option LogLevel :=
  if n = 0 then none else [error, warn, info, debug, trace][n - 1]?

/-- Reads a level by its word or by its number. -/
def parse? (s : String) : Option LogLevel :=
  match Text.unsigned? s with
  | some n => ofNumber? n
  | none => Keyword.parse? s

end LogLevel

/-- How a client is instrumented. -/
structure ClientConfig where
  /-- The time limit of a call. -/
  timeout : Option Duration := none
  defaults : Settings := KeyMap.empty
  logs : Bool := true
  level : LogLevel := .debug
  /-- The number of bytes of a statement that are logged; without one it is logged whole. -/
  maxSqlBytes : Option Nat := some 200
deriving DecidableEq

/-- The kind of a logged call. -/
inductive CallKind where
  | select | batch | write
deriving DecidableEq, Repr

/-- The kind as written. -/
def CallKind.token : CallKind → String
  | select => "select"
  | batch => "batch"
  | write => "write"

/-- How a logged call ended. -/
inductive LogOutcome where
  | ok
  | failed (e : QueryError)
  | timedOut (after : Duration)
deriving DecidableEq, Repr

/-- A finished call. -/
structure LogEvent where
  level : LogLevel
  kind : CallKind
  sql : String
  /-- The number of tables or payloads sent along. -/
  files : Nat
  outcome : LogOutcome
deriving DecidableEq, Repr

/-- The state of a wrapped client, with the events so far. -/
structure Logged (σ : Type) where
  client : σ
  events : List LogEvent := []

/-! ### Shortened statements -/

/-- The last place among the first `n` bytes of a text, or right behind them, where no character is
cut through.  The search goes back byte by byte. -/
def lastBoundary (s : String) : Nat → Nat
  | 0 => 0
  | n + 1 => if (⟨n + 1⟩ : String.Pos.Raw).IsValid s then n + 1 else lastBoundary s n

/-- The first `n` bytes of a text; nothing if a character is cut through behind them. -/
def firstBytes? (s : String) (n : Nat) : Option String :=
  if h : (⟨n⟩ : String.Pos.Raw).IsValid s then some (s.extract s.startPos (s.pos ⟨n⟩ h)) else none

/-- A text that takes at most so many bytes; a longer one is cut at the last boundary up to
there. -/
def truncateBytes? (s : String) (max : Nat) : Option String :=
  if s.utf8ByteSize ≤ max then some s else firstBytes? s (lastBoundary s max)

theorem isValid_lastBoundary (s : String) (n : Nat) :
    (⟨lastBoundary s n⟩ : String.Pos.Raw).IsValid s := by
  induction n with
  | zero => exact String.Pos.Raw.isValid_zero
  | succ n ih =>
      rw [lastBoundary]
      split
      · assumption
      · exact ih

theorem isSome_firstBytes?_iff {s : String} {n : Nat} :
    (firstBytes? s n).isSome ↔ (⟨n⟩ : String.Pos.Raw).IsValid s := by
  unfold firstBytes?
  split <;> simp_all

/-- No character is cut through. -/
theorem isSome_truncateBytes? (s : String) (max : Nat) : (truncateBytes? s max).isSome := by
  unfold truncateBytes?
  split
  · rfl
  · exact isSome_firstBytes?_iff.mpr (isValid_lastBoundary s max)

/-- The beginning of a text that is left when it may take at most so many bytes. -/
def truncateBytes (s : String) (max : Nat) : String :=
  (truncateBytes? s max).get (isSome_truncateBytes? s max)

namespace ClientConfig

/-- The statement as logged: what is cut off is replaced by an ellipsis. -/
def loggedSql (c : ClientConfig) (sql : String) : String :=
  match c.maxSqlBytes with
  | some max => if max < sql.utf8ByteSize then truncateBytes sql max ++ "..." else sql
  | none => sql

/-- The query with the default settings where it has none of its own. -/
def withDefaults (c : ClientConfig) (q : CompiledQuery) : CompiledQuery :=
  { q with settings := c.defaults.union q.settings }

/-- The event for a finished call, if calls are logged.  A call that ran out of time is a
warning. -/
def event? {α : Type} (c : ClientConfig) (kind : CallKind) (sql : String) (files : Nat)
    (result : Except QueryError α) : Option LogEvent :=
  if c.logs then
    let sql := c.loggedSql sql
    match result with
    | .error (.timeout after) => some ⟨.warn, kind, sql, files, .timedOut after⟩
    | .error e => some ⟨c.level, kind, sql, files, .failed e⟩
    | .ok _ => some ⟨c.level, kind, sql, files, .ok⟩
  else none

end ClientConfig

namespace Logged

variable {σ : Type}

/-- The state after an event, if there is one. -/
def add (s : Logged σ) (e : Option LogEvent) : Logged σ :=
  { s with events := s.events ++ e.toList }

/-- The state of the wrapped client changed. -/
def mapClient (f : σ → σ) (s : Logged σ) : Logged σ := { s with client := f s.client }

end Logged

namespace Reply

variable {σ α : Type}

/-- The cut-off of a hanging call under a time limit.  A limit that the call runs into on its own
counts when it is not longer. -/
def limit (timeout : Option Duration) (own : Option (CutOff σ)) : Option (CutOff (Logged σ)) :=
  let lifted := own.map fun c => ({ after := c.after, settle := Logged.mapClient c.settle })
  sooner lifted (timeout.map fun t => { after := t, settle := id })

/-- A call on a wrapped client. -/
def instrument (c : ClientConfig) (kind : CallKind) (sql : String) (files : Nat)
    (call : σ → Reply σ α × σ) (s : Logged σ) : Reply (Logged σ) α × Logged σ :=
  let record (s : Logged σ) (result : Except QueryError α) : Logged σ :=
    s.add (c.event? kind sql files result)
  match call s.client with
  | (.now result, t) => (.now result, record { s with client := t } result)
  | (.hangs own, t) =>
      let cutOff := (limit c.timeout own).map fun cut =>
        ({ after := cut.after
           settle := fun s => record (cut.settle s) (.error (.timeout cut.after)) } :
          CutOff (Logged σ))
      hanging cutOff { s with client := t }

end Reply

/-- The client wrapped. -/
def Client.instrumented {σ : Type} (c : ClientConfig) (client : Client σ) : Client (Logged σ) where
  select q :=
    let q := c.withDefaults q
    Reply.instrument c .select q.sql q.tables.length (client.select q)
  selectBatch qs :=
    let qs := qs.map c.withDefaults
    Reply.instrument c .batch ("; ".intercalate (qs.map CompiledQuery.sql))
      (qs.foldl (fun n q => n + q.tables.length) 0) (client.selectBatch qs)
  write sql payload :=
    Reply.instrument c .write sql payload.toList.length (client.write sql payload)

end FluentSql
