import FluentSql.Run.Read
import FluentSql.Run.Write

/-! # Calls that a client receives

What a client is asked for is not visible in what a session returns.  `Client.recorded` keeps the
calls of another client and passes them on; a call that is awaited has the answer of that client,
and is recorded however it ends (`Session.await_record`).  Each step of a session is one of three:
an outcome that is known (`Session.ofExcept`), one call (`Session.await`), or one session after
another (`Session.bind_eq_iff`). -/

namespace FluentSql

variable {σ α β : Type}

/-- A call that a client receives. -/
inductive ClientCall where
  | select (c : CompiledQuery)
  | selectBatch (cs : List CompiledQuery)
  | write (sql : String) (payload : Option Payload)
deriving DecidableEq

/-- The state of a client, with the calls that it has received so far. -/
structure Recorded (σ : Type) where
  client : σ
  calls : List ClientCall := []

/-- The state of the client changed. -/
def Recorded.mapClient (f : σ → σ) (s : Recorded σ) : Recorded σ := { s with client := f s.client }

/-- A call that is recorded when it starts. -/
def Reply.record (c : ClientCall) (call : σ → Reply σ α × σ) (s : Recorded σ) :
    Reply (Recorded σ) α × Recorded σ :=
  match call s.client with
  | (.now result, t) => (.now result, { client := t, calls := s.calls ++ [c] })
  | (.hangs cutOff, t) =>
      (.hangs (cutOff.map fun cut =>
          { after := cut.after, settle := Recorded.mapClient cut.settle }),
        { client := t, calls := s.calls ++ [c] })

/-- The client with a record of its calls. -/
def Client.recorded (client : Client σ) : Client (Recorded σ) where
  select c := Reply.record (.select c) (client.select c)
  selectBatch cs := Reply.record (.selectBatch cs) (client.selectBatch cs)
  write sql payload := Reply.record (.write sql payload) (client.write sql payload)

/-! ### Steps of a session -/

namespace Session

theorem ofExcept_eq (x : Except QueryError α) (s : σ) :
    ofExcept x s = (x.mapError Halt.failed, s) := by
  cases x <;> rfl

theorem bind_apply (x : Session σ α) (f : α → Session σ β) (s : σ) :
    (x >>= f) s =
      match x s with
      | (.ok a, t) => f a t
      | (.error h, t) => (.error h, t) := by
  simp only [bind, ExceptT.bind, ExceptT.mk, ExceptT.bindCont, StateT.bind]
  rcases x s with ⟨_ | _, t⟩ <;> rfl

/-- Two sessions in sequence end as the first one does when it fails, and as the second one does
otherwise. -/
theorem bind_eq_iff {x : Session σ α} {f : α → Session σ β} {s t : σ} {r : Except Halt β} :
    (x >>= f) s = (r, t) ↔
      (∃ h, x s = (.error h, t) ∧ r = .error h) ∨
        ∃ a u, x s = (.ok a, u) ∧ f a u = (r, t) := by
  rw [bind_apply]
  rcases x s with ⟨h | a, u⟩
  · constructor
    · rintro ⟨⟩
      exact .inl ⟨h, rfl, rfl⟩
    · rintro (⟨_, ⟨⟩, rfl⟩ | ⟨_, _, ⟨⟩, -⟩)
      rfl
  · constructor
    · exact fun hf => .inr ⟨a, u, rfl, hf⟩
    · rintro (⟨_, ⟨⟩, -⟩ | ⟨_, _, ⟨⟩, hf⟩)
      exact hf

/-- A call that is awaited is recorded, however it ends. -/
theorem await_record (c : ClientCall) (call : σ → Reply σ α × σ) (s : Recorded σ) :
    await (Reply.record c call) s =
      ((await call s.client).1,
        { client := (await call s.client).2, calls := s.calls ++ [c] }) := by
  unfold await Reply.record
  rcases call s.client with ⟨(_ | _) | (_ | _), t⟩ <;> rfl

end Session

namespace Query

variable {q : Query} {d : CompiledQuery}

/-- The rows of a query are asked for in one call, which is recorded. -/
theorem get_recorded (hd : q.compile = .ok d) (client : Client σ) (s : Recorded σ) :
    q.get client.recorded s =
      ((q.get client s.client).1,
        { client := (q.get client s.client).2, calls := s.calls ++ [.select d] }) := by
  rw [get, get, hd]
  exact Session.await_record (.select d) (client.select d) s

end Query

/-! ### The steps of a page -/

/-- The number of a page; page 0 is page 1. -/
def pageNumber (page : UInt64) : UInt64 := if page = 0 then 1 else page

/-- The number of rows before a page. -/
def rowsBefore (page perPage : UInt64) : Nat := perPage.toNat * ((pageNumber page).toNat - 1)

/-- Whether there can be such a page: it has rows, and a window can start at it. -/
def IsPage (page perPage : UInt64) : Prop :=
  perPage ≠ 0 ∧ rowsBefore page perPage < UInt64.size

/-- Why there can be no such page. -/
def pageFault (page perPage : UInt64) : ArgumentFault :=
  if perPage = 0 then .zeroPageSize else .pageOutOfRange (pageNumber page).toNat

/-- The window on the rows of a page. -/
def pageWindow (page perPage : UInt64) : RowLimit :=
  { count := perPage, offset := some (UInt64.ofNat (rowsBefore page perPage)) }

namespace Query

variable (q : Query) (client : Client σ) {page perPage : UInt64}

/-- A page is read in two steps: the rows are counted, and those in its window are read. -/
theorem paginate_of_isPage (h : IsPage page perPage) :
    q.paginate client page perPage = (do
      let total ← q.count client
      let items ← (q.setLimit (pageWindow page perPage)).get client
      return {
        items := items
        total := total
        perPage := perPage
        current := pageNumber page
        last := max 1 ((total + perPage.toNat - 1) / perPage.toNat) }) := by
  rw [paginate, if_neg h.1]
  exact if_neg (Nat.not_le.mpr h.2)

theorem paginate_of_not_isPage (h : ¬ IsPage page perPage) :
    q.paginate client page perPage = Session.fail (.invalidArgument (pageFault page perPage)) := by
  unfold pageFault
  by_cases hzero : perPage = 0
  · rw [paginate, if_pos hzero, if_pos hzero]
  · rw [paginate, if_neg hzero, if_neg hzero]
    exact if_pos (Nat.not_lt.mp fun hrange => h ⟨hzero, hrange⟩)

end Query

end FluentSql
