import FluentSql.Proofs.FormulaReading

/-! # Truth of entries linked by AND and OR

Entries with conjunctions are an OR of maximal runs of AND (`HoldTogether`).  An entry that is left
out passes for true.  That changes nothing as long as it leaves the runs as they are
(`KeepsRuns.holdTogether_present`).  As soon as it joins two of them or empties the first one,
there are truth values for which it does (`keepsRuns_of_forall`). -/

namespace FluentSql

section Linked

variable {α β : Type} {truth : α → Prop} {p : Prop} {entries es : List (Conjunction × α)}

/-- Entries with their conjunctions hold together: AND binds tighter than OR, and nothing at all
holds. -/
def HoldTogether (truth : α → Prop) (entries : List (Conjunction × α)) : Prop :=
  entries = [] ∨ ∃ run ∈ runs entries, ∀ e ∈ run, truth e.2

/-- The entries hold behind a run of AND that is true if `p` is. -/
def HoldBehind (truth : α → Prop) (p : Prop) : List (Conjunction × α) → Prop
  | [] => p
  | (.and, x) :: es => HoldBehind truth (p ∧ truth x) es
  | (.or, x) :: es => p ∨ HoldBehind truth (truth x) es

theorem exists_run_append_iff (truth : α → Prop) (es : List (Conjunction × α)) :
    ∀ {run : List (Conjunction × α)}, run ≠ [] →
      run.IsChain (fun _ e => decide (e.1 = .and)) →
        ((∃ r ∈ runs (run ++ es), ∀ e ∈ r, truth e.2) ↔
          HoldBehind truth (∀ e ∈ run, truth e.2) es) := by
  induction es with
  | nil =>
      intro run hne hchain
      rw [List.append_nil, runs, List.splitBy_of_isChain hne hchain]
      simp [HoldBehind]
  | cons d es ih =>
      intro run hne hchain
      obtain ⟨c, x⟩ := d
      cases c with
      | and =>
          have hlonger : (run ++ [(Conjunction.and, x)]).IsChain
              (fun _ e => decide (e.1 = .and)) :=
            List.isChain_append.mpr ⟨hchain, by simp, by simp⟩
          have hih := ih (by simp) hlonger
          rw [List.append_assoc, List.singleton_append] at hih
          rw [hih, HoldBehind]
          have hrun : (∀ e ∈ run ++ [(Conjunction.and, x)], truth e.2) =
              ((∀ e ∈ run, truth e.2) ∧ truth x) := by
            rw [List.forall_mem_append, List.forall_mem_singleton]
          rw [hrun]
      | or =>
          have hsplit : runs (run ++ (Conjunction.or, x) :: es) =
              run :: runs ((Conjunction.or, x) :: es) := by
            rw [runs, List.splitBy_append_cons es (by simp), List.splitBy_of_isChain hne hchain]
            rfl
          have hih := ih (List.cons_ne_nil (Conjunction.or, x) []) (List.isChain_singleton _)
          rw [List.singleton_append, List.forall_mem_singleton] at hih
          rw [hsplit, HoldBehind, ← hih]
          simp only [List.mem_cons, exists_eq_or_imp]

theorem holdTogether_cons (e : Conjunction × α) (es : List (Conjunction × α)) :
    HoldTogether truth (e :: es) ↔ HoldBehind truth (truth e.2) es := by
  have h := exists_run_append_iff truth es (List.cons_ne_nil e []) (List.isChain_singleton _)
  rw [List.singleton_append, List.forall_mem_singleton] at h
  rw [HoldTogether, ← h]
  simp

/-- All that matters is the conjunctions and the truth values. -/
theorem holdTogether_map {truth' : β → Prop} {g : Conjunction × β → α}
    (h : ∀ e, truth (g e) ↔ truth' e.2) (entries : List (Conjunction × β)) :
    HoldTogether truth (entries.map fun e => (e.1, g e)) ↔ HoldTogether truth' entries := by
  have hbehind : ∀ {p : Prop} (es : List (Conjunction × β)),
      HoldBehind truth p (es.map fun e => (e.1, g e)) ↔ HoldBehind truth' p es := by
    intro p es
    induction es generalizing p with
    | nil => rfl
    | cons d es ih =>
        obtain ⟨c, x⟩ := d
        cases c with
        | and => rw [List.map_cons, HoldBehind, HoldBehind, ih, h]
        | or => rw [List.map_cons, HoldBehind, HoldBehind, ih, h]
  cases entries with
  | nil => simp [HoldTogether]
  | cons e es => rw [List.map_cons, holdTogether_cons, holdTogether_cons, hbehind, h]

/-- The first run is enough. -/
theorem holdBehind_of_run (hp : p) (hrun : ∀ e ∈ es.takeWhile (·.1 = .and), truth e.2) :
    HoldBehind truth p es := by
  induction es generalizing p with
  | nil => exact hp
  | cons d es ih =>
      obtain ⟨c, x⟩ := d
      cases c with
      | and =>
          obtain ⟨hx, hrest⟩ : truth x ∧ ∀ e ∈ es.takeWhile (·.1 = .and), truth e.2 := by
            simpa using hrun
          exact ih ⟨hp, hx⟩ hrest
      | or => exact .inl hp

/-- A run behind it is enough, too. -/
theorem holdBehind_append_or {front back : List (Conjunction × α)} {x : α}
    (h : HoldBehind truth (truth x) back) : HoldBehind truth p (front ++ (.or, x) :: back) := by
  induction front generalizing p with
  | nil => exact .inr h
  | cons d front ih =>
      obtain ⟨c, y⟩ := d
      cases c with
      | and => exact ih
      | or => exact .inr ih

/-- It takes one entry of each run to be false. -/
theorem not_holdBehind (hp : ¬ p) (hor : ∀ d ∈ es, d.1 = .or → ¬ truth d.2) :
    ¬ HoldBehind truth p es := by
  induction es generalizing p with
  | nil => exact hp
  | cons d es ih =>
      obtain ⟨c, x⟩ := d
      obtain ⟨hx, hrest⟩ := List.forall_mem_cons.mp hor
      cases c with
      | and => exact ih (fun h => hp h.1) hrest
      | or => exact not_or.mpr ⟨hp, ih (hx rfl) hrest⟩

end Linked

/-! ### Entries left out -/

section LeftOut

variable {α β : Type} {truth : α → Prop} {p : Prop} {es : List (Conjunction × Option α)}

/-- The entries that are there; those that are not say something true. -/
def present (es : List (Conjunction × Option α)) : List (Conjunction × α) :=
  es.filterMap fun e => e.2.map (e.1, ·)

/-- The entry is true if it is there. -/
def IfPresent (truth : α → Prop) (x : Option α) : Prop := x.elim True truth

theorem ifPresent_of_not_isSome {x : Option α} (h : ¬ x.isSome) : IfPresent truth x := by
  rw [Option.not_isSome_iff_eq_none.mp h]
  trivial

/-- Leaving out the entries that are not there leaves the runs of AND as they are: either nothing is
there, or something of the first run is and so is every entry that opens another run. -/
def KeepsRuns (there : β → Bool) : List (Conjunction × β) → Prop
  | [] => True
  | e :: es => (∀ d ∈ e :: es, ¬ there d.2) ∨
      (∃ d ∈ e :: es.takeWhile (·.1 = .and), there d.2) ∧ ∀ d ∈ es, d.1 = .or → there d.2

instance (there : β → Bool) : (entries : List (Conjunction × β)) →
    Decidable (KeepsRuns there entries)
  | [] => isTrue trivial
  | e :: es => inferInstanceAs (Decidable ((∀ d ∈ e :: es, ¬ there d.2) ∨
      (∃ d ∈ e :: es.takeWhile (·.1 = .and), there d.2) ∧ ∀ d ∈ es, d.1 = .or → there d.2))

theorem keepsRuns_of_forall_mem {there : β → Bool} {entries : List (Conjunction × β)}
    (h : ∀ e ∈ entries, there e.2) : KeepsRuns there entries := by
  cases entries with
  | nil => trivial
  | cons e es =>
      obtain ⟨he, hes⟩ := List.forall_mem_cons.mp h
      exact .inr ⟨⟨e, List.mem_cons_self, he⟩, fun d hd _ => hes d hd⟩

/-- All that matters is the conjunctions and what is there. -/
theorem keepsRuns_map_iff (there : β → Bool) (entries : List (Conjunction × β)) :
    KeepsRuns id (entries.map fun e => (e.1, there e.2)) ↔ KeepsRuns there entries := by
  cases entries with
  | nil => rfl
  | cons e es =>
      simp only [KeepsRuns, List.map_cons, List.takeWhile_map, List.mem_cons, List.mem_map,
        forall_eq_or_imp, exists_eq_or_imp, forall_exists_index, and_imp,
        forall_apply_eq_imp_iff₂, exists_exists_and_eq_and, Function.comp_def, id]

@[simp]
theorem present_none (c : Conjunction) : present ((c, none) :: es) = present es := rfl

@[simp]
theorem present_some (c : Conjunction) (x : α) :
    present ((c, some x) :: es) = (c, x) :: present es := rfl

theorem present_append (es es' : List (Conjunction × Option α)) :
    present (es ++ es') = present es ++ present es' :=
  List.filterMap_append

theorem mem_present_iff {e : Conjunction × α} : e ∈ present es ↔ (e.1, some e.2) ∈ es := by
  obtain ⟨c, x⟩ := e
  simp [present]

theorem present_eq_nil_iff : present es = [] ↔ ∀ d ∈ es, ¬ d.2.isSome := by
  simp [present]

/-- Entries within the runs can be left out. -/
theorem holdBehind_present (hor : ∀ d ∈ es, d.1 = .or → d.2.isSome) :
    HoldBehind truth p (present es) ↔ HoldBehind (IfPresent truth) p es := by
  induction es generalizing p with
  | nil => rfl
  | cons d es ih =>
      obtain ⟨c, x⟩ := d
      obtain ⟨hx, hrest⟩ := List.forall_mem_cons.mp hor
      cases c with
      | and =>
          rw [HoldBehind, ← ih hrest]
          cases x with
          | none => rw [present_none, IfPresent, Option.elim_none, and_true]
          | some y => rfl
      | or =>
          obtain ⟨y, rfl⟩ := Option.isSome_iff_exists.mp (hx rfl)
          exact or_congr Iff.rfl (ih hrest)

/-- Entries at the start can be left out as long as something of their run is there. -/
theorem holdTogether_present_of_run (hrun : ∃ d ∈ es.takeWhile (·.1 = .and), d.2.isSome)
    (hor : ∀ d ∈ es, d.1 = .or → d.2.isSome) :
    HoldTogether truth (present es) ↔ HoldBehind (IfPresent truth) True es := by
  induction es with
  | nil => simp at hrun
  | cons d es ih =>
      obtain ⟨c, x⟩ := d
      obtain ⟨-, hrest⟩ := List.forall_mem_cons.mp hor
      cases c with
      | or => simp at hrun
      | and =>
          rw [HoldBehind, true_and]
          cases x with
          | none => exact ih (by simpa using hrun) hrest
          | some y => rw [present_some, holdTogether_cons, holdBehind_present hrest]; rfl

/-- Entries can be left out if the runs stay as they are. -/
theorem KeepsRuns.holdTogether_present (h : KeepsRuns Option.isSome es) :
    HoldTogether truth (present es) ↔ HoldTogether (IfPresent truth) es := by
  cases es with
  | nil => simp [HoldTogether, present]
  | cons e es =>
      rw [holdTogether_cons]
      rcases h with hnone | ⟨hrun, hor⟩
      · obtain ⟨he, hes⟩ := List.forall_mem_cons.mp fun d hd => ifPresent_of_not_isSome (hnone d hd)
        exact iff_of_true (.inl (present_eq_nil_iff.mpr hnone))
          (holdBehind_of_run he fun d hd => hes d (List.takeWhile_subset _ hd))
      · obtain ⟨c, x⟩ := e
        cases x with
        | none => exact holdTogether_present_of_run (by simpa using hrun) hor
        | some y => rw [present_some, holdTogether_cons, holdBehind_present hor]; rfl

/-- Nothing that is there holds if all of it is false. -/
theorem not_holdTogether_of_forall {entries : List (Conjunction × α)} (hne : entries ≠ [])
    (hfalse : ∀ e ∈ entries, ¬ truth e.2) : ¬ HoldTogether truth entries := by
  obtain ⟨e, rest, rfl⟩ := List.exists_cons_of_ne_nil hne
  obtain ⟨he, hrest⟩ := List.forall_mem_cons.mp hfalse
  rw [holdTogether_cons]
  exact not_holdBehind he fun d hd _ => hrest d hd

/-- A run of different entries that goes on from the one in front of it is not enough. -/
theorem not_holdTogether_run {front run behind : List (Conjunction × α)} (hfront : front ≠ [])
    (hrun : ∀ d ∈ run, d.1 = .and)
    (hdistinct : ((front ++ (run ++ behind)).map (·.2)).Nodup) :
    ¬ HoldTogether (· ∈ run.map (·.2)) (front ++ (run ++ behind)) := by
  rw [List.map_append, List.map_append, List.nodup_append, List.nodup_append] at hdistinct
  obtain ⟨-, ⟨-, -, hbehind⟩, hbefore⟩ := hdistinct
  have hfalse : ∀ d ∈ front, d.2 ∉ run.map (·.2) := fun d hd hmem =>
    hbefore d.2 (List.mem_map_of_mem hd) d.2 (List.mem_append_left _ hmem) rfl
  obtain ⟨e, rest, rfl⟩ := List.exists_cons_of_ne_nil hfront
  obtain ⟨he, hrest⟩ := List.forall_mem_cons.mp hfalse
  rw [List.cons_append, holdTogether_cons]
  refine not_holdBehind he fun d hd hor => ?_
  rcases List.mem_append.mp hd with hd | hd
  · exact hrest d hd
  rcases List.mem_append.mp hd with hd | hd
  · exact absurd (hor.symm.trans (hrun d hd)) (by decide)
  · exact fun hmem => hbehind d.2 hmem d.2 (List.mem_map_of_mem hd) rfl

theorem mem_of_mem_takeWhile_append_or {front back : List (Conjunction × α)} {x : α}
    {d : Conjunction × α} (hd : d ∈ (front ++ (.or, x) :: back).takeWhile (·.1 = .and)) :
    d ∈ front := by
  rw [List.takeWhile_append] at hd
  split at hd
  · simpa using hd
  · exact List.takeWhile_subset _ hd

/-- What an entry of a run says is among what the run says. -/
theorem ifPresent_mem_run {run : List (Conjunction × Option α)} {e : Conjunction × Option α}
    (he : e ∈ run) : IfPresent (· ∈ (present run).map (·.2)) e.2 := by
  obtain ⟨c, x⟩ := e
  cases x with
  | none => trivial
  | some y => exact List.mem_map.mpr ⟨(c, y), mem_present_iff.mpr he, rfl⟩

/-- Nothing else can be left out, whatever different things the entries say. -/
theorem keepsRuns_of_forall (hdistinct : ((present es).map (·.2)).Nodup)
    (h : ∀ truth : α → Prop, (∀ x, truth x → x ∈ (present es).map (·.2)) →
      (HoldTogether truth (present es) ↔ HoldTogether (IfPresent truth) es)) :
    KeepsRuns Option.isSome es := by
  cases es with
  | nil => trivial
  | cons e es =>
      by_cases hnone : present (e :: es) = []
      · exact .inl (present_eq_nil_iff.mp hnone)
      have hrun : ∃ d ∈ e :: es.takeWhile (·.1 = .and), d.2.isSome := by
        -- otherwise the first run is true while everything that is there is false
        by_contra hrun
        refine not_holdTogether_of_forall hnone (fun _ _ => id) ((h (fun _ => False) ?_).mpr ?_)
        · exact fun _ => False.elim
        have htrue : ∀ d ∈ e :: es.takeWhile (·.1 = .and), IfPresent (fun _ => False) d.2 :=
          fun d hd => ifPresent_of_not_isSome fun hsome => hrun ⟨d, hd, hsome⟩
        obtain ⟨he, hes⟩ := List.forall_mem_cons.mp htrue
        exact (holdTogether_cons e es).mpr (holdBehind_of_run he hes)
      refine .inr ⟨hrun, ?_⟩
      rintro ⟨c, x⟩ hd rfl
      by_contra hleft
      obtain rfl : x = none := Option.not_isSome_iff_eq_none.mp hleft
      -- otherwise the run that the entry opens becomes part of the one in front of it
      obtain ⟨front, back, rfl⟩ := List.append_of_mem hd
      have hparts : present (e :: (front ++ (.or, none) :: back)) =
          present (e :: front) ++ (present (back.takeWhile (·.1 = .and)) ++
            present (back.dropWhile (·.1 = .and))) := by
        rw [← present_append, List.takeWhile_append_dropWhile, ← List.cons_append, present_append,
          present_none]
      have hfront : present (e :: front) ≠ [] := by
        obtain ⟨d, hd, hsome⟩ := hrun
        obtain ⟨y, hy⟩ := Option.isSome_iff_exists.mp hsome
        have hmem : d ∈ e :: front := by
          rcases List.mem_cons.mp hd with rfl | hd
          · exact List.mem_cons_self
          · exact List.mem_cons_of_mem e (mem_of_mem_takeWhile_append_or hd)
        exact List.ne_nil_of_mem (a := (d.1, y)) (mem_present_iff.mpr (hy ▸ hmem))
      have hand : ∀ d ∈ present (back.takeWhile (·.1 = .and)), d.1 = .and := by
        intro d hd
        have himp := List.mem_takeWhile_imp (mem_present_iff.mp hd)
        exact of_decide_eq_true himp
      rw [hparts] at hdistinct h
      refine not_holdTogether_run hfront hand hdistinct ((h _ fun x hx => ?_).mpr ?_)
      · simp only [List.map_append, List.mem_append]
        exact .inr (.inl hx)
      · exact (holdTogether_cons e _).mpr
          (holdBehind_append_or (holdBehind_of_run trivial fun d => ifPresent_mem_run))

end LeftOut
end FluentSql
