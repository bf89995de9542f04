import FluentSql.Proofs.SelectAlike
import FluentSql.Proofs.TableReference
import FluentSql.Proofs.Unaliased

/-! # Aliases outside brackets

The text of a column without raw SQL introduces an alias outside brackets only if an alias shows in
it (`Column.mayAlias_toSql`).  A pipeline of functions decides this function by function: what stood
open before one does so behind it unless the function writes its brackets around it
(`ColumnFunction.mayAlias_apply`).  So lists of columns in which no alias shows introduce none,
behind GROUP BY (`noAlias_groupClause`) and behind LIMIT BY (`RowLimit.noAlias_by`). -/

namespace FluentSql

/-! ### Texts put together -/

theorem noAlias_iff_any {s : String} :
    NoAlias s ↔ (surface? s).any fun ms => ms.count (.outer (.word "AS")) = 0 := by
  rw [NoAlias, Option.any_eq_true]
  exact exists_congr fun ms => and_congr_right fun _ => decide_eq_true_iff.symm

instance (s : String) : Decidable (NoAlias s) := decidable_of_iff' _ noAlias_iff_any

/-- All brackets of the text match, and outside them it introduces no alias if it may not. -/
def MayAlias (b : Bool) (s : String) : Prop :=
  ∃ ms, surface? s = some ms ∧ (b = false → ms.count (.outer (.word "AS")) = 0)

/-- A text of plain characters: behind it the brackets `q` are to close if the brackets `p` were to
close before it, and it introduces no alias. -/
def Silent (p q : List Char) (k : String) : Prop :=
  k.toList.all Token.isPlain ∧
    (Lexeme.mark p (Lexeme.ofText k)).any fun r =>
      r.1 = q ∧ r.2.count (.outer (.word "AS")) = 0

instance (p q : List Char) (k : String) : Decidable (Silent p q k) :=
  inferInstanceAs (Decidable (_ ∧ _))

theorem Silent.exists_mark {p q : List Char} {k : String} (h : Silent p q k) :
    ∃ ks, Lexeme.mark p (Lexeme.ofText k) = some (q, ks) ∧
      ks.count (.outer (.word "AS")) = 0 := by
  obtain ⟨⟨q', ks⟩, hks, hif⟩ := (Option.any_eq_true _ _).mp h.2
  obtain ⟨rfl, hcount⟩ := of_decide_eq_true hif
  exact ⟨ks, hks, hcount⟩

theorem noAlias_of_silent {k : String} (h : Silent [] [] k) : NoAlias k := by
  obtain ⟨ks, hks, hcount⟩ := h.exists_mark
  exact ⟨ks, surface?_eq_some.mpr ⟨_, Lexeme.read?_text h.1, hks⟩, hcount⟩

theorem NoAlias.mayAlias {s : String} (h : NoAlias s) (b : Bool) : MayAlias b s := by
  obtain ⟨ms, hms, hcount⟩ := h
  exact ⟨ms, hms, fun _ => hcount⟩

theorem Alike.mayAlias {f : String → String} {ws : List String} {s s' : String}
    (h : Alike f ws s s') : MayAlias true s := by
  obtain ⟨ms, hms, -⟩ := h.exists_surface
  exact ⟨ms, hms, fun hfalse => absurd hfalse (by decide)⟩

namespace MayAlias

variable {b c : Bool} {s t : String}

theorem noAlias (h : MayAlias false s) : NoAlias s := by
  obtain ⟨ms, hms, hcount⟩ := h
  exact ⟨ms, hms, hcount rfl⟩

theorem behind (k : String) (hk : Silent [] [] k) (hend : Token.endsApart (Token.ofText k))
    (h : MayAlias b s) : MayAlias b (k ++ s) := by
  obtain ⟨ks, hks, hquiet⟩ := hk.exists_mark
  obtain ⟨ms, hms, hcount⟩ := h
  refine ⟨_, surface?_behind k hk.1 hend hks hms, fun hb => ?_⟩
  rw [List.count_append, hquiet, hcount hb]

theorem glue (k : String) (hk : Silent [] [] k) (hlead : Token.leads k)
    (hend : Token.endsApart (Token.ofText k)) (hs : MayAlias b s) (ht : MayAlias c t) :
    MayAlias (b || c) (s ++ k ++ t) := by
  obtain ⟨ks, hks, hquiet⟩ := hk.exists_mark
  obtain ⟨ms, hms, hcount⟩ := hs
  obtain ⟨ns, hns, hcount'⟩ := ht
  refine ⟨_, surface?_glue k hk.1 hlead hend hks hms hns, fun hboth => ?_⟩
  obtain ⟨hb, hc⟩ := Bool.or_eq_false_iff.mp hboth
  rw [List.count_append, List.count_append, hquiet, hcount hb, hcount' hc]

/-- Between brackets an alias is not outside them. -/
theorem enclosed (k l : String) (d : Char) (hk : Silent [] [d] k) (hl : Silent [d] [] l)
    (hend : Token.endsApart (Token.ofText k)) (hlead : Token.leads l) (h : MayAlias b s) :
    NoAlias (k ++ s ++ l) := by
  obtain ⟨os, hos, hopen⟩ := hk.exists_mark
  obtain ⟨cs, hcs, hclose⟩ := hl.exists_mark
  obtain ⟨ms, hms, -⟩ := h
  refine ⟨_, surface?_enclosed k l d hk.1 hend hl.1 hlead hos hcs hms, ?_⟩
  have hinner : (ms.map (Mark.inner ·.lexeme)).count (.outer (.word "AS")) = 0 := by
    rw [List.count_eq_zero, List.mem_map]
    rintro ⟨m, -, hm⟩
    cases congrArg Mark.isOuter hm
  rw [List.count_append, List.count_append, hopen, hinner, hclose]

theorem parenthesized (h : MayAlias b s) : NoAlias (parenthesized s) :=
  h.enclosed "(" ")" ')' (by decide) (by decide) (by decide) (by decide)

end MayAlias

theorem noAlias_commaList {ss : List String} (h : ∀ s ∈ ss, NoAlias s) :
    NoAlias (Text.commaList ss) := by
  induction ss with
  | nil => exact noAlias_of_silent (k := "") (by decide)
  | cons s ss ih =>
      obtain ⟨hs, hss⟩ := List.forall_mem_cons.mp h
      cases ss with
      | nil => rwa [Text.commaList, String.intercalate_singleton]
      | cons t ts =>
          have hglue := (hs.mayAlias false).glue ", " (by decide) (by decide) (by decide)
            ((ih hss).mayAlias false)
          rw [Text.commaList, String.intercalate_cons_cons]
          exact hglue.noAlias

/-! ### Values -/

theorem noAlias_of_isNumeric {s : String} (h : ∀ c ∈ s.toList, isNumeric c) : NoAlias s := by
  have hnumber := Lexeme.isNumber_of_isNumeric (w := []) h (by simp)
  have hplain : s.toList.all Token.isPlain :=
    List.all_eq_true.mpr fun c hc => Token.isPlain_of_isNumeric (h c hc)
  refine ⟨_, surface?_eq_some.mpr ⟨_, Lexeme.read?_text hplain,
    Lexeme.mark_of_isUnseen fun l hl => Lexeme.isUnseen_of_isNumber (hnumber l hl)⟩, ?_⟩
  rw [List.count_eq_zero, List.mem_map]
  rintro ⟨l, hl, hmark⟩
  obtain rfl : l = .word "AS" := congrArg Mark.lexeme hmark
  exact absurd (hnumber _ hl) (by decide)

theorem Text.noAlias_quote (s : String) : NoAlias (quote s) := by
  have hread : Lexeme.read? (quote s) = some [.string s] := by
    rw [Lexeme.read?, Token.read?_quote]
    rfl
  exact ⟨[.outer (.string s)], surface?_eq_some.mpr ⟨_, hread, rfl⟩, rfl⟩

theorem Binary64.noAlias_sqlText (x : Binary64) : NoAlias x.sqlText := by
  rcases x.sqlText_cases with h | h | h | h
  · rw [h]
    exact noAlias_of_silent (by decide)
  · rw [h]
    exact noAlias_of_silent (by decide)
  · rw [h]
    exact noAlias_of_silent (by decide)
  · exact noAlias_of_isNumeric h

theorem Operator.noAlias_token (op : Operator) : NoAlias op.token := by
  cases op <;> exact noAlias_of_silent (by decide)

theorem Identifier.mayAlias_quoted (id : Identifier) : MayAlias id.carriesAlias id.quoted := by
  cases h : id.carriesAlias with
  | true => exact (id.alike_quoted (f := fun s => s)).mayAlias
  | false =>
      have hnone : id.splitAlias? = none := by simpa [carriesAlias] using h
      exact (noAlias_quoted hnone).mayAlias false

theorem Value.mayAlias_sql {v : Value} (h : v.isRawFree) : MayAlias v.carriesAlias v.sql := by
  cases v with
  | null => exact (noAlias_of_silent (by decide)).mayAlias _
  | bool b => cases b <;> exact (noAlias_of_silent (by decide)).mayAlias _
  | int n => exact (noAlias_of_isNumeric fun _ hc => isNumeric_of_mem_intText hc).mayAlias _
  | uint n => exact (noAlias_of_isNumeric fun _ hc => isNumeric_of_mem_natText hc).mayAlias _
  | float x => exact x.noAlias_sqlText.mayAlias _
  | string s => exact (Text.noAlias_quote s).mayAlias _
  | identifier id => exact id.mayAlias_quoted
  | raw sql => cases h
  | array items =>
      have hitems := (alike_sqlList (f := id) items h).commaList.mayAlias
      exact (hitems.enclosed "[" "]" ']' (by decide) (by decide) (by decide) (by decide)).mayAlias _

/-! ### Functions -/

namespace ColumnFunction

variable {b : Bool} {s : String}

/-- What may introduce an alias still may behind a function, unless the function encloses it. -/
theorem mayAlias_apply {f : ColumnFunction} (hf : f.isRawFree) (previous : Option ColumnFunction)
    (h : MayAlias b s) :
    MayAlias ((b && !f.encloses previous) || f.carriesAlias) (f.apply previous s) := by
  cases f with
  | sum =>
      exact (h.enclosed "sum(" ")" ')' (by decide) (by decide) (by decide) (by decide)).mayAlias _
  | round decimals =>
      have hnumber : NoAlias (toString decimals.toInt) :=
        noAlias_of_isNumeric fun _ hc => isNumeric_of_mem_intText hc
      have harguments := h.glue ", " (by decide) (by decide) (by decide) (hnumber.mayAlias false)
      rw [apply_round]
      exact (harguments.enclosed "round(" ")" ')' (by decide) (by decide) (by decide)
        (by decide)).mayAlias _
  | plus v =>
      have hsum := h.glue " + " (by decide) (by decide) (by decide) (Value.mayAlias_sql hf)
      rw [encloses, Bool.not_false, Bool.and_true]
      exact hsum
  | multiply v =>
      rw [apply_multiply_eq, encloses]
      refine MayAlias.glue " * " (by decide) (by decide) (by decide) ?_ (Value.mayAlias_sql hf)
      cases isPlus previous with
      | false =>
          rw [Bool.not_false, Bool.and_true]
          exact h
      | true => exact h.parenthesized.mayAlias _
  | runningDifference =>
      exact (h.enclosed "runningDifference(" ")" ')' (by decide) (by decide) (by decide)
        (by decide)).mayAlias _
  | count => exact (noAlias_of_silent (k := "count()") (by decide)).mayAlias _
  | distinct =>
      have hcarries : distinct.carriesAlias = false := rfl
      rw [encloses, Bool.not_false, Bool.and_true, hcarries, Bool.or_false]
      exact h.behind "DISTINCT " (by decide) (by decide)
  | sumIf op v =>
      have hcondition := (op.noAlias_token.mayAlias false).glue " " (by decide) (by decide)
        (by decide) (Value.mayAlias_sql (v := v) hf)
      have harguments := h.glue ", " (by decide) (by decide) (by decide) hcondition
      rw [apply_sumIf]
      exact (harguments.enclosed "sumIf(" ")" ')' (by decide) (by decide) (by decide)
        (by decide)).mayAlias _

theorem mayAlias_applyAll {fs : List ColumnFunction} :
    ∀ {b : Bool} {s : String} (previous : Option ColumnFunction), fs.all isRawFree → MayAlias b s →
      MayAlias ((b && leavesOpen previous fs) || showsAlias fs) (applyAll previous s fs) := by
  induction fs with
  | nil =>
      intro b s _ _ h
      rw [leavesOpen, showsAlias, Bool.and_true, Bool.or_false]
      exact h
  | cons f fs ih =>
      intro b s previous hfree h
      obtain ⟨hf, hfs⟩ := Bool.and_eq_true_iff.mp hfree
      have hrest := ih (some f) hfs (mayAlias_apply hf previous h)
      rw [Bool.and_or_distrib_right, Bool.and_assoc, Bool.or_assoc] at hrest
      exact hrest

end ColumnFunction

/-! ### Columns -/

theorem ColumnSource.mayAlias_toSqlOrNothing {source : Option ColumnSource} {sql : String}
    (hfree : isRawFreeOption source) (h : toSqlOrNothing source = .ok sql) :
    MayAlias (source.any carriesAlias) sql := by
  rcases source with _ | (v | c | q)
  · obtain rfl := Except.ok.inj h
    exact (noAlias_of_silent (by decide)).mayAlias _
  · obtain rfl := Except.ok.inj h
    exact Value.mayAlias_sql hfree
  · obtain ⟨inner, hinner, hsql⟩ := bind_eq_ok.mp h
    obtain rfl := Except.ok.inj hsql
    obtain ⟨_, -, halike⟩ := (Column.alike_toSql (f := id) c hfree).of_ok hinner
    exact halike.mayAlias.parenthesized.mayAlias _
  · obtain ⟨inner, hinner, hsql⟩ := bind_eq_ok.mp h
    obtain rfl := Except.ok.inj hsql
    obtain ⟨_, -, halike⟩ := (Query.alike_toSql (f := id) q hfree).of_ok hinner
    exact halike.mayAlias.parenthesized.mayAlias _

/-- **A column introduces an alias outside brackets only if an alias shows in it.** -/
theorem Column.mayAlias_toSql {c : Column} {sql : String} (hfree : c.isRawFree)
    (h : c.toSql = .ok sql) : MayAlias c.showsAlias sql := by
  cases hshows : c.showsAlias with
  | true =>
      obtain ⟨_, -, halike⟩ := (Column.alike_toSql (f := id) c hfree).of_ok h
      exact halike.mayAlias
  | false =>
      have hempty := eq_empty_iff_isEmpty h
      obtain ⟨source, aliasName, functions⟩ := c
      obtain ⟨hbehind, hwithin⟩ := Bool.or_eq_false_iff.mp hshows
      obtain ⟨hsource, hfunctions⟩ := Bool.and_eq_true_iff.mp hfree
      rw [toSql_eq] at h
      obtain ⟨inner, hinner, rfl⟩ := map_eq_ok_iff.mp h
      have hpipeline := ColumnFunction.mayAlias_applyAll none hfunctions
        (ColumnSource.mayAlias_toSqlOrNothing hsource hinner)
      rw [hwithin] at hpipeline
      cases aliasName with
      | none => exact hpipeline
      | some a =>
          have hisEmpty : isEmpty ⟨source, some a, functions⟩ := by simpa using hbehind
          rw [hempty.mpr hisEmpty]
          exact (noAlias_of_silent (by decide)).mayAlias _

theorem Column.noAlias_of_forall₂ {cs : List Column} {sqls : List String}
    (hcs : ∀ c ∈ cs, c.isRawFree ∧ c.showsAlias = false)
    (h : List.Forall₂ (fun c sql => Column.toSql c = .ok sql) cs sqls) :
    ∀ sql ∈ sqls, NoAlias sql := by
  induction h with
  | nil => exact nofun
  | @cons c sql cs sqls hsql _ ih =>
      obtain ⟨⟨hfree, hshows⟩, hrest⟩ := List.forall_mem_cons.mp hcs
      have hmay := mayAlias_toSql hfree hsql
      rw [hshows] at hmay
      exact List.forall_mem_cons.mpr ⟨hmay.noAlias, ih hrest⟩

/-! ### Clauses -/

theorem noAlias_groupClause {texts : Option (List String)}
    (h : ∀ sqls ∈ texts, ∀ sql ∈ sqls, NoAlias sql) : NoAlias (groupClause texts) := by
  cases texts with
  | none => exact noAlias_of_silent (k := "") (by decide)
  | some sqls =>
      have hlist : NoAlias (Text.commaList (sqls.filter (· ≠ ""))) :=
        noAlias_commaList fun sql hsql => h sqls rfl sql (List.mem_of_mem_filter hsql)
      rw [groupClause, Text.clause]
      split
      · exact noAlias_of_silent (by decide)
      · exact ((hlist.mayAlias false).behind "GROUP BY " (by decide) (by decide)).noAlias

theorem RowLimit.noAlias_sql (l : RowLimit) : NoAlias l.sql := by
  have hnumber (n : Nat) : MayAlias false (toString n) :=
    (noAlias_of_isNumeric fun _ hc => isNumeric_of_mem_natText hc).mayAlias false
  have hfirst (n : Nat) : MayAlias false ("LIMIT " ++ toString n) :=
    (hnumber n).behind "LIMIT " (by decide) (by decide)
  obtain ⟨count, _ | offset⟩ := l
  · exact (hfirst count.toNat).noAlias
  · exact ((hfirst offset.toNat).glue ", " (by decide) (by decide) (by decide)
      (hnumber count.toNat)).noAlias

theorem RowLimit.noAlias_by (l : RowLimit) {sqls : List String} (h : ∀ sql ∈ sqls, NoAlias sql) :
    NoAlias (l.sql ++ " BY " ++ Text.commaList sqls) :=
  ((l.noAlias_sql.mayAlias false).glue " BY " (by decide) (by decide) (by decide)
    ((noAlias_commaList h).mayAlias false)).noAlias

end FluentSql
