import FluentSql.Client.Compiled

/-! # Clients

A client runs compiled queries and writes data.  It is given by what each call does to its state
and how the call ends: at once (`Reply.now`), or not before something cuts it off
(`Reply.hangs`).  Time is not counted otherwise: of calls that hang, the one with the shortest
time limit is cut off first, and a call that has no time to wait ends at once (`Reply.hanging`).

Several calls can be under way together.  They start in order.  `Reply.together` fails as soon as
one of them fails; `Reply.inTurn` takes up the results in order, keeps at most a given number
of calls started whose results have not been taken up, and fails when the turn of a failure
comes. -/

namespace FluentSql

/-- The end of a call that hangs: the time limit that it runs into, and what the client's state is
afterwards. -/
structure CutOff (σ : Type) where
  after : Duration
  settle : σ → σ

/-- How a call ends. -/
inductive Reply (σ α : Type) where
  | now (result : Except QueryError α)
  | hangs (cutOff : Option (CutOff σ))

namespace Reply

variable {σ α β : Type}

/-- The reply of a call that hangs until it is cut off, and the state behind it.  Without any time
to wait the call is cut off at once. -/
def hanging : Option (CutOff σ) → σ → Reply σ α × σ
  | some c, s =>
      if c.after = .zero then (.now (.error (.timeout c.after)), c.settle s)
      else (.hangs (some c), s)
  | none, s => (.hangs none, s)

/-- The cut-off with the shorter time limit, the first of two equal ones. -/
def sooner : Option (CutOff σ) → Option (CutOff σ) → Option (CutOff σ)
  | some a, some b => if a.after ≤ b.after then some a else some b
  | a, none => a
  | none, b => b

/-- Calls under way together, after which of them hang so far.  A failure ends the sequence. -/
def together (call : β → σ → Reply σ α × σ) :
    List β → σ → Reply σ (List α) × σ
  | [], s => (.now (.ok []), s)
  | x :: xs, s =>
      match call x s with
      | (.now (.error e), s) => (.now (.error e), s)
      | (.now (.ok r), s) =>
          match together call xs s with
          | (.now (.ok rs), s) => (.now (.ok (r :: rs)), s)
          | other => other
      | (.hangs c, s) =>
          match together call xs s with
          | (.now (.ok _), s) => (.hangs c, s)
          | (.now (.error e), s) => (.now (.error e), s)
          | (.hangs d, s) => (.hangs (sooner c d), s)

/-- The state after calls are started whose results are not taken up. -/
def startAll (call : β → σ → Reply σ α × σ) (xs : List β) (s : σ) : σ :=
  xs.foldl (fun s x => (call x s).2) s

/-- Calls whose results are taken up in turn, with at most `width` started ahead. -/
def inTurn (call : β → σ → Reply σ α × σ) (width : Nat) :
    List β → σ → Reply σ (List α) × σ
  | [], s => (.now (.ok []), s)
  | x :: xs, s =>
      match call x s with
      | (.now (.error e), s) => (.now (.error e), s)
      | (.now (.ok r), s) =>
          match inTurn call width xs s with
          | (.now (.ok rs), s) => (.now (.ok (r :: rs)), s)
          | other => other
      | (.hangs c, s) => (.hangs c, startAll call (xs.take (width - 1)) s)

/-- The largest batch whose failures are not taken up in turn. -/
def eagerBatch : Nat := 30

/-- A batch of calls, all under way together.  In a large batch a failure waits for its turn. -/
def batch (call : β → σ → Reply σ α × σ) (xs : List β) (s : σ) : Reply σ (List α) × σ :=
  if xs.length ≤ eagerBatch then together call xs s else inTurn call xs.length xs s

end Reply

/-- What runs queries: the effect of each kind of call on a state, and its reply. -/
structure Client (σ : Type) where
  /-- Runs a query. -/
  select : CompiledQuery → σ → Reply σ RowSet × σ
  /-- Runs several independent queries; the answers are in the order of the queries. -/
  selectBatch : List CompiledQuery → σ → Reply σ (List RowSet) × σ := Reply.batch select
  /-- Runs a statement that gives no rows, with data for it if it takes any. -/
  write : String → Option Payload → σ → Reply σ Bool × σ

/-! ### Sessions -/

/-- Why a session has no result. -/
inductive Halt where
  | failed (e : QueryError)
  /-- It waits for a reply that never comes. -/
  | hung
deriving DecidableEq, Repr

/-- A computation that calls a client with state `σ`. -/
abbrev Session (σ α : Type) := ExceptT Halt (StateM σ) α

namespace Session

variable {σ α : Type}

/-- Gives up with an error. -/
def fail (e : QueryError) : Session σ α := throw (.failed e)

/-- Goes on with a result, or gives up with its error. -/
def ofExcept : Except QueryError α → Session σ α
  | .ok x => pure x
  | .error e => fail e

/-- Makes a call and waits for its end. -/
def await (call : σ → Reply σ α × σ) : Session σ α := fun s =>
  match call s with
  | (.now (.ok x), s) => (.ok x, s)
  | (.now (.error e), s) => (.error (.failed e), s)
  | (.hangs (some c), s) => (.error (.failed (.timeout c.after)), c.settle s)
  | (.hangs none, s) => (.error .hung, s)

end Session

end FluentSql
