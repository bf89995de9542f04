import FluentSql.Client.Instrumented
import FluentSql.Client.Scripted
import FluentSql.Proofs.Recording

/-! # Clients behind wrappers

A wrapper passes each call on as one call, whose queries have the default settings where they have
none of their own (`ClientCall.mapQueries`).  That holds however the call ends, and behind any
number of wrappers (`Client.Forwards.instrumented`), so that two wrappers send what one with the
settings of both sends.  A wrapper that sets no time limit gives the answer of the wrapped client
and leaves its state to it (`Session.await_instrument`).  From one call both facts pass to all
calls of a caller (`Client.instrumented_transparent_and_nested`). -/

namespace FluentSql

variable {σ τ α : Type}

/-! ### Calls and their answers -/

/-- The call with its queries changed. -/
def ClientCall.mapQueries (f : CompiledQuery → CompiledQuery) : ClientCall → ClientCall
  | .select q => .select (f q)
  | .selectBatch qs => .selectBatch (qs.map f)
  | .write sql payload => .write sql payload

/-- What comes of a call. -/
inductive ClientAnswer where
  | rows (result : Except Halt RowSet)
  | batch (result : Except Halt (List RowSet))
  | written (result : Except Halt Bool)

namespace Client

/-- A call that is awaited: what comes of it, and the state of the client behind it. -/
def answer (client : Client σ) (k : ClientCall) (s : σ) : ClientAnswer × σ :=
  match k with
  | .select q => (Session.await (client.select q) s).map .rows id
  | .selectBatch qs => (Session.await (client.selectBatch qs) s).map .batch id
  | .write sql payload => (Session.await (client.write sql payload) s).map .written id

/-- Calls that are awaited one after the other. -/
def answers (client : Client σ) : List ClientCall → σ → List ClientAnswer × σ
  | [], s => ([], s)
  | k :: ks, s =>
      let (first, t) := client.answer k s
      let (others, u) := client.answers ks t
      (first :: others, u)

end Client

/-! ### Answers through a wrapper -/

namespace Session

/-- A call that is cut off leaves the state that its end settles, whether it waits for that or
not. -/
theorem await_of_hanging {call : σ → Reply σ α × σ} {s t : σ} {cut : CutOff σ}
    (h : call s = Reply.hanging (some cut) t) :
    await call s = (.error (.failed (.timeout cut.after)), cut.settle t) := by
  unfold await
  rw [h, Reply.hanging]
  by_cases hzero : cut.after = .zero
  · rw [if_pos hzero]
  · rw [if_neg hzero]

/-- Without a time limit of its own, a wrapper gives the answer of the wrapped client. -/
theorem await_instrument {c : ClientConfig} (hc : c.timeout = none) (kind : CallKind) (sql : String)
    (files : Nat) (call : σ → Reply σ α × σ) (s : Logged σ) :
    (await (Reply.instrument c kind sql files call) s).1 = (await call s.client).1 ∧
      (await (Reply.instrument c kind sql files call) s).2.client = (await call s.client).2 := by
  rcases hcall : call s.client with ⟨result | cutOff, t⟩
  · unfold await Reply.instrument
    rw [hcall]
    cases result <;> exact ⟨rfl, rfl⟩
  · cases cutOff with
    | none =>
        unfold await Reply.instrument
        rw [hcall, hc]
        exact ⟨rfl, rfl⟩
    | some cut =>
        have hinner : await call s.client =
            (.error (.failed (.timeout cut.after)), cut.settle t) := by
          unfold await
          rw [hcall]
        have houter : Reply.instrument c kind sql files call s = Reply.hanging
            (some ⟨cut.after, fun u => (u.mapClient cut.settle).add
              (c.event? (α := α) kind sql files (.error (.timeout cut.after)))⟩)
            { s with client := t } := by
          unfold Reply.instrument
          rw [hcall, hc]
          rfl
        rw [await_of_hanging houter, hinner]
        exact ⟨rfl, rfl⟩

end Session

/-- All calls through a wrapper without a time limit are answered by the wrapped client. -/
theorem Client.answer_instrumented (client : Client σ) {c : ClientConfig} (hc : c.timeout = none)
    (k : ClientCall) (s : Logged σ) :
    ((client.instrumented c).answer k s).1 =
        (client.answer (k.mapQueries c.withDefaults) s.client).1 ∧
      ((client.instrumented c).answer k s).2.client =
        (client.answer (k.mapQueries c.withDefaults) s.client).2 := by
  cases k with
  | select q =>
      refine And.imp_left (congrArg ClientAnswer.rows) ?_
      exact Session.await_instrument hc _ _ _ (client.select (c.withDefaults q)) s
  | selectBatch qs =>
      refine And.imp_left (congrArg ClientAnswer.batch) ?_
      exact Session.await_instrument hc _ _ _ (client.selectBatch (qs.map c.withDefaults)) s
  | write sql payload =>
      refine And.imp_left (congrArg ClientAnswer.written) ?_
      exact Session.await_instrument hc _ _ _ (client.write sql payload) s

theorem Client.answers_instrumented (client : Client σ) {c : ClientConfig} (hc : c.timeout = none)
    (ks : List ClientCall) (s : Logged σ) :
    ((client.instrumented c).answers ks s).1 =
        (client.answers (ks.map (·.mapQueries c.withDefaults)) s.client).1 ∧
      ((client.instrumented c).answers ks s).2.client =
        (client.answers (ks.map (·.mapQueries c.withDefaults)) s.client).2 := by
  induction ks generalizing s with
  | nil => exact ⟨rfl, rfl⟩
  | cons k ks ih =>
      obtain ⟨hanswer, hstate⟩ := client.answer_instrumented hc k s
      obtain ⟨hanswers, hstates⟩ := ih ((client.instrumented c).answer k s).2
      rw [hstate] at hanswers hstates
      exact ⟨congr (congrArg List.cons hanswer) hanswers, hstates⟩

/-! ### Calls that are passed on -/

/-- Each time the call is made, the client that keeps the record receives `k`, and nothing else
until the call has ended, also when it is cut off. -/
structure Reply.Sends (seen : σ → List ClientCall) (call : σ → Reply σ α × σ) (k : ClientCall) :
    Prop where
  started : ∀ s, seen (call s).2 = seen s ++ [k]
  settled : ∀ s cut t, call s = (.hangs (some cut), t) → ∀ u, seen (cut.settle u) = seen u

namespace Reply

variable {seen : σ → List ClientCall} {call : σ → Reply σ α × σ} {k : ClientCall}

theorem sends_record (k : ClientCall) (call : σ → Reply σ α × σ) :
    Sends Recorded.calls (Reply.record k call) k where
  started s := by
    unfold record
    split <;> rfl
  settled s cut t h := by
    unfold record at h
    split at h
    · cases h
    · rename_i cutOff _ _
      obtain ⟨hcut, -⟩ := Prod.mk.inj h
      obtain ⟨own, -, rfl⟩ := Option.map_eq_some_iff.mp (Reply.hangs.inj hcut)
      exact fun u => rfl

/-- A cut-off under a time limit is the one of the call itself, or changes nothing. -/
theorem limit_cases {timeout : Option Duration} {own : Option (CutOff σ)} {cut : CutOff (Logged σ)}
    (h : limit timeout own = some cut) :
    (∃ c, own = some c ∧ cut.settle = Logged.mapClient c.settle) ∨ cut.settle = id := by
  cases own with
  | none =>
      cases timeout with
      | none => cases h
      | some t =>
          obtain rfl := Option.some.inj h
          exact .inr rfl
  | some c =>
      cases timeout with
      | none =>
          obtain rfl := Option.some.inj h
          exact .inl ⟨c, rfl, rfl⟩
      | some t =>
          simp only [limit, sooner, Option.map] at h
          split at h
          · obtain rfl := Option.some.inj h
            exact .inl ⟨c, rfl, rfl⟩
          · obtain rfl := Option.some.inj h
            exact .inr rfl

/-- The end of a call through a wrapper adds nothing to the record. -/
theorem Sends.limit_settle (h : Sends seen call k) {s t : σ} {own : Option (CutOff σ)}
    (hcall : call s = (.hangs own, t)) {timeout : Option Duration} {cut : CutOff (Logged σ)}
    (hcut : limit timeout own = some cut) (u : Logged σ) :
    seen (cut.settle u).client = seen u.client := by
  rcases limit_cases hcut with ⟨c, rfl, hsettle⟩ | hsettle
  · rw [hsettle]
    exact h.settled s c t hcall u.client
  · rw [hsettle]
    rfl

/-- A call through a wrapper is one call of the wrapped client. -/
theorem Sends.instrument (h : Sends seen call k) (c : ClientConfig) (kind : CallKind) (sql : String)
    (files : Nat) : Sends (fun s => seen s.client) (Reply.instrument c kind sql files call) k where
  started s := by
    have hstarted := h.started s.client
    unfold Reply.instrument
    rcases hcall : call s.client with ⟨result | own, t⟩
    · rwa [hcall] at hstarted
    · rw [hcall] at hstarted
      dsimp only
      cases hcut : limit c.timeout own with
      | none => exact hstarted
      | some cut =>
          rw [Option.map_some, hanging]
          split
          · exact (h.limit_settle hcall hcut _).trans hstarted
          · exact hstarted
  settled s cut' t' hs u := by
    unfold Reply.instrument at hs
    rcases hcall : call s.client with ⟨result | own, t⟩
    · rw [hcall] at hs
      cases hs
    · rw [hcall] at hs
      dsimp only at hs
      cases hcut : limit c.timeout own with
      | none =>
          rw [hcut] at hs
          cases hs
      | some cut =>
          rw [hcut, Option.map_some, hanging] at hs
          split at hs
          · cases hs
          · obtain ⟨hreply, -⟩ := Prod.mk.inj hs
            obtain rfl := Option.some.inj (Reply.hangs.inj hreply)
            exact h.limit_settle hcall hcut u

/-- A call that is awaited is received once. -/
theorem Sends.await (h : Sends seen call k) (s : σ) :
    seen (Session.await call s).2 = seen s ++ [k] := by
  have hstarted := h.started s
  unfold Session.await
  rcases hcall : call s with ⟨(_ | _) | (_ | cut), t⟩
  · rwa [hcall] at hstarted
  · rwa [hcall] at hstarted
  · rwa [hcall] at hstarted
  · rw [hcall] at hstarted
    exact (h.settled s cut t hcall t).trans hstarted

end Reply

namespace Client

/-- For each call, the client that keeps the record receives the call with its queries changed. -/
structure Forwards (client : Client σ) (seen : σ → List ClientCall)
    (f : CompiledQuery → CompiledQuery) : Prop where
  select : ∀ q, Reply.Sends seen (client.select q) (.select (f q))
  selectBatch : ∀ qs, Reply.Sends seen (client.selectBatch qs) (.selectBatch (qs.map f))
  write : ∀ sql payload, Reply.Sends seen (client.write sql payload) (.write sql payload)

theorem forwards_recorded (client : Client σ) : client.recorded.Forwards Recorded.calls id where
  select q := Reply.sends_record _ _
  selectBatch qs := by
    rw [List.map_id]
    exact Reply.sends_record _ _
  write sql payload := Reply.sends_record _ _

variable {client : Client σ} {seen : σ → List ClientCall} {f : CompiledQuery → CompiledQuery}

/-- A wrapper puts its default settings under those of the queries that it passes on. -/
theorem Forwards.instrumented (h : client.Forwards seen f) (c : ClientConfig) :
    (client.instrumented c).Forwards (fun s => seen s.client) (f ∘ c.withDefaults) where
  select q := (h.select (c.withDefaults q)).instrument c _ _ _
  selectBatch qs := by
    rw [← List.map_map]
    exact (h.selectBatch (qs.map c.withDefaults)).instrument c _ _ _
  write sql payload := (h.write sql payload).instrument c _ _ _

theorem Forwards.answer (h : client.Forwards seen f) (k : ClientCall) (s : σ) :
    seen (client.answer k s).2 = seen s ++ [k.mapQueries f] := by
  cases k with
  | select q => exact (h.select q).await s
  | selectBatch qs => exact (h.selectBatch qs).await s
  | write sql payload => exact (h.write sql payload).await s

/-- All calls are passed on, in their order. -/
theorem Forwards.answers (h : client.Forwards seen f) (ks : List ClientCall) (s : σ) :
    seen (client.answers ks s).2 = seen s ++ ks.map (·.mapQueries f) := by
  induction ks generalizing s with
  | nil => exact (List.append_nil _).symm
  | cons k ks ih =>
      have hrest := ih (client.answer k s).2
      rw [h.answer, List.append_assoc] at hrest
      exact hrest

end Client

/-! ### Default settings -/

namespace ClientConfig

/-- A query keeps its own settings, and takes the default ones where it has none. -/
theorem get?_settings_withDefaults (c : ClientConfig) (q : CompiledQuery) (name : String) :
    (c.withDefaults q).settings.get? name =
      (q.settings.get? name).or (c.defaults.get? name) := KeyMap.get?_union _ _ _

/-- The settings of two wrappers in turn are those of one, where the outer ones go first. -/
theorem withDefaults_comp {inner outer both : ClientConfig}
    (h : both.defaults = inner.defaults.union outer.defaults) :
    inner.withDefaults ∘ outer.withDefaults = both.withDefaults := by
  funext q
  simp [withDefaults, h, KeyMap.union_assoc]

end ClientConfig

namespace Client

/-- **A wrapper changes settings only, and two wrappers send what one does.**  Whatever the wrapped
client makes of its calls, it receives each call once and in order, with the same statements,
tables and data; a setting of a query has the value that the query gives it, else the default one,
and there are no others.  Without a time limit of the wrapper the answers are those of the wrapped
client, which is left in the state it would be in otherwise.  Of two wrappers, with any time limits,
the client behind both receives what one wrapper lets it receive that has the default settings of
the inner one overlaid with those of the outer one. -/
theorem instrumented_transparent_and_nested (client : Client σ) :
    (∀ (c : ClientConfig) (ks : List ClientCall) (s : Logged (Recorded σ)),
      ((client.recorded.instrumented c).answers ks s).2.client.calls =
        s.client.calls ++ ks.map (·.mapQueries c.withDefaults)) ∧
    (∀ (c : ClientConfig) (q : CompiledQuery),
      (c.withDefaults q).sql = q.sql ∧ (c.withDefaults q).tables = q.tables ∧
      ∀ name, (c.withDefaults q).settings.get? name =
        (q.settings.get? name).or (c.defaults.get? name)) ∧
    (∀ c : ClientConfig, c.timeout = none → ∀ (ks : List ClientCall) (s : Logged σ),
      ((client.instrumented c).answers ks s).1 =
          (client.answers (ks.map (·.mapQueries c.withDefaults)) s.client).1 ∧
        ((client.instrumented c).answers ks s).2.client =
          (client.answers (ks.map (·.mapQueries c.withDefaults)) s.client).2) ∧
    ∀ inner outer both : ClientConfig, both.defaults = inner.defaults.union outer.defaults →
    ∀ (ks : List ClientCall) (s : Logged (Logged (Recorded σ))) (t : Logged (Recorded σ)),
    s.client.client.calls = t.client.calls →
    (((client.recorded.instrumented inner).instrumented outer).answers ks s).2.client.client.calls =
      ((client.recorded.instrumented both).answers ks t).2.client.calls := by
  have hone (c : ClientConfig) :
      (client.recorded.instrumented c).Forwards (fun s => s.client.calls) c.withDefaults :=
    client.forwards_recorded.instrumented c
  refine ⟨fun c => (hone c).answers, fun c q => ⟨rfl, rfl, c.get?_settings_withDefaults q⟩,
    fun c hc => client.answers_instrumented hc, fun inner outer both hboth ks s t hst => ?_⟩
  have htwo := ((hone inner).instrumented outer).answers ks s
  rw [ClientConfig.withDefaults_comp hboth, hst] at htwo
  exact htwo.trans ((hone both).answers ks t).symm

/-- Both wrappers and the query have settings under the same names. -/
theorem instrumented_transparent_and_nested_overlap :
    let client := Client.scripted [] []
    let inner : ClientConfig :=
      { defaults := .ofList [("a", "1"), ("b", "1"), ("c", "1")], timeout := some .zero }
    let outer : ClientConfig := { defaults := .ofList [("c", "2"), ("b", "2")] }
    let both : ClientConfig := { defaults := .ofList [("a", "1"), ("b", "2"), ("c", "2")] }
    let q : CompiledQuery := { sql := "SELECT 1", settings := .ofList [("c", "3")] }
    let sent : CompiledQuery :=
      { q with settings := .ofList [("a", "1"), ("b", "2"), ("c", "3")] }
    both.defaults = inner.defaults.union outer.defaults ∧ both.timeout = none ∧
      ((client.recorded.instrumented inner).instrumented outer |>.answers
        [.selectBatch [q, q], .select q] ⟨⟨⟨{}, []⟩, []⟩, []⟩).2.client.client.calls =
          [.selectBatch [sent, sent], .select sent] ∧
      (client.instrumented both |>.answers [.select q] ⟨{}, []⟩).1 =
        (client.answers [.select sent] {}).1 := by
  intro client inner outer both q sent
  have hboth : both.defaults = inner.defaults.union outer.defaults := by decide
  have hsent : both.withDefaults q = sent := by decide
  obtain ⟨hone, -, hanswers, htwo⟩ := instrumented_transparent_and_nested client
  refine ⟨hboth, rfl, ?_, ?_⟩
  · rw [htwo inner outer both hboth _ _ ⟨⟨{}, []⟩, []⟩ rfl, hone]
    simp [ClientCall.mapQueries, hsent]
  · rw [(hanswers both rfl _ _).1]
    simp [ClientCall.mapQueries, hsent]

end Client

end FluentSql
