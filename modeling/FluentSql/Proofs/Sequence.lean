import FluentSql.Proofs.ClauseBody

/-! # Conditions in sequence

The text of a list of conditions is built up from the left (`linked_eq_foldl`), and each step looks
at the text so far and at the next entry (`link`): an entry without text changes nothing, the
first one with a text stands alone, and any other one has its conjunction in front.  So what
stands in front of the text passes unchanged through the steps (`foldl_link_append`), and two lists
in sequence have the texts of both, with one conjunction between them
(`Predicate.listToSql_append_and_error_iff`). -/

namespace FluentSql

/-- A text with an entry behind it. -/
def link (text : String) (entry : Conjunction × String) : String :=
  if entry.2 = "" then text
  else if text = "" then entry.2
  else text ++ " " ++ entry.1.token ++ " " ++ entry.2

variable {entries : List (Conjunction × String)}

/-! ### Linking step by step -/

theorem link_of_empty {entry : Conjunction × String} (h : entry.2 = "") (text : String) :
    link text entry = text := if_pos h

theorem link_empty (entry : Conjunction × String) : link "" entry = entry.2 := by
  unfold link
  split
  · rename_i hentry
    exact hentry.symm
  · rfl

theorem link_of_ne_empty {text : String} (ht : text ≠ "") {entry : Conjunction × String}
    (hentry : entry.2 ≠ "") :
    link text entry = text ++ " " ++ entry.1.token ++ " " ++ entry.2 := by
  rw [link, if_neg hentry, if_neg ht]

theorem append_ne_empty {s : String} (t : String) (hs : s ≠ "") : t ++ s ≠ "" := by
  simp [hs]

/-- A step leaves alone what stands in front of the text. -/
theorem link_append {s : String} (hs : s ≠ "") (t : String) (entry : Conjunction × String) :
    link (t ++ s) entry = t ++ link s entry := by
  by_cases hentry : entry.2 = ""
  · rw [link_of_empty hentry, link_of_empty hentry]
  · rw [link_of_ne_empty (append_ne_empty t hs) hentry, link_of_ne_empty hs hentry]
    simp only [String.append_assoc]

theorem link_ne_empty {text : String} (ht : text ≠ "") (entry : Conjunction × String) :
    link text entry ≠ "" := by
  by_cases hentry : entry.2 = ""
  · rwa [link_of_empty hentry]
  · rw [link_of_ne_empty ht hentry]
    exact append_ne_empty _ hentry

/-- All steps leave alone what stands in front of the text. -/
theorem foldl_link_append {s : String} (hs : s ≠ "") (t : String) :
    entries.foldl link (t ++ s) = t ++ entries.foldl link s := by
  induction entries generalizing s with
  | nil => rfl
  | cons entry entries ih =>
      rw [List.foldl_cons, List.foldl_cons, link_append hs, ih (link_ne_empty hs entry)]

theorem foldl_link_of_empty (h : ∀ d ∈ entries, d.2 = "") (text : String) :
    entries.foldl link text = text := by
  induction entries with
  | nil => rfl
  | cons entry entries ih =>
      obtain ⟨hentry, hrest⟩ := List.forall_mem_cons.mp h
      rw [List.foldl_cons, link_of_empty hentry, ih hrest]

theorem Text.words_concat {pieces : List String} (hpieces : words pieces ≠ "") {s : String}
    (hs : s ≠ "") : words (pieces ++ [s]) = words pieces ++ " " ++ s := by
  have hkept : pieces.filter (· ≠ "") ≠ [] := by
    intro hnil
    exact hpieces (by rw [words, hnil]; rfl)
  have hlast : [s].filter (· ≠ "") = [s] := by simp [hs]
  rw [words, List.filter_append, hlast, String.intercalate_append_of_ne_nil hkept (by simp),
    String.intercalate_singleton]
  rfl

/-- An entry at the end of a list is linked to the text of the others. -/
theorem linked_concat (entries : List (Conjunction × String)) (entry : Conjunction × String) :
    linked (entries ++ [entry]) = link (linked entries) entry := by
  have htoken : entry.1.token ≠ "" := by cases entry.1 <;> decide
  by_cases hentry : entry.2 = ""
  · rw [link_of_empty hentry]
    simp [linked, List.filter_append, hentry]
  · have hlast : [entry].filter (·.2 ≠ "") = [entry] := by simp [hentry]
    by_cases hempty : linked entries = ""
    · have hnil : entries.filter (·.2 ≠ "") = [] := by
        simpa using linked_eq_empty_iff.mp hempty
      rw [hempty, link_empty, linked, List.filter_append, hnil, hlast]
      simp [Text.words, hentry]
    · rw [link_of_ne_empty hempty hentry]
      unfold linked at hempty ⊢
      rw [List.filter_append, hlast]
      generalize entries.filter (·.2 ≠ "") = kept at hempty ⊢
      cases kept with
      | nil => exact absurd rfl hempty
      | cons c cs =>
          dsimp only [List.cons_append] at hempty ⊢
          have hsplit : (c.2 :: (cs ++ [entry]).flatMap fun d => [d.1.token, d.2]) =
              (c.2 :: cs.flatMap fun d => [d.1.token, d.2]) ++ [entry.1.token] ++ [entry.2] := by
            simp
          rw [hsplit, Text.words_concat ?_ hentry, Text.words_concat hempty htoken]
          rw [Text.words_concat hempty htoken]
          exact append_ne_empty _ htoken

/-- Linking is done step by step. -/
theorem linked_eq_foldl (entries : List (Conjunction × String)) :
    linked entries = entries.foldl link "" := by
  induction entries using List.reverseRecOn with
  | nil => rfl
  | append_singleton entries entry ih => rw [linked_concat, List.foldl_concat, ih]

theorem linked_append (front back : List (Conjunction × String)) :
    linked (front ++ back) = back.foldl link (linked front) := by
  rw [linked_eq_foldl, List.foldl_append, ← linked_eq_foldl]

/-- Between the texts of two lists stands the conjunction of the first entry of the second list that
has a text. -/
theorem linked_append_of_leader {front silent rest : List (Conjunction × String)}
    {leader : Conjunction × String} (hfront : linked front ≠ "") (hsilent : ∀ d ∈ silent, d.2 = "")
    (hleader : leader.2 ≠ "") :
    linked (front ++ (silent ++ leader :: rest)) =
      linked front ++ " " ++ leader.1.token ++ " " ++ linked (silent ++ leader :: rest) := by
  have hrun (text : String) : (silent ++ leader :: rest).foldl link text =
      rest.foldl link (link text leader) := by
    rw [List.foldl_append, foldl_link_of_empty hsilent, List.foldl_cons]
  rw [linked_append, linked_eq_foldl (silent ++ _), hrun, hrun, link_of_ne_empty hfront hleader,
    link_empty, foldl_link_append hleader]

namespace Predicate

/-! ### Lists of conditions -/

variable {xs ys : List Predicate} {a b : String}

theorem listToSql_eq_ok_iff : listToSql xs = .ok a ↔
    ∃ cs, toSqlList xs = .ok cs ∧ linked cs = a := by
  rw [listToSql, bind_eq_ok]
  simp only [pure, Except.pure, Except.ok.injEq]

theorem listToSql_singleton (p : Predicate) : listToSql [p] = p.toSql := by
  have hlinked (sql : String) : linked [(p.conjunction, sql)] = sql := by
    rw [linked_eq_foldl]
    exact link_empty _
  rw [listToSql, toSqlList, toSqlList]
  cases p.toSql with
  | error e => rfl
  | ok sql => exact congrArg Except.ok (hlinked sql)

theorem toSqlList_append_eq_ok_iff {es : List (Conjunction × String)} :
    toSqlList (xs ++ ys) = .ok es ↔
      ∃ cs, toSqlList xs = .ok cs ∧ ∃ ds, toSqlList ys = .ok ds ∧ cs ++ ds = es := by
  simp only [toSqlList_eq_mapM, List.mapM_append, bind_eq_ok, pure, Except.pure, Except.ok.injEq]

/-- Conditions without a text of their own can be left out. -/
theorem listToSql_filter (ps : List Predicate) :
    listToSql (ps.filter fun p => listToSql [p] ≠ .ok "") = listToSql ps := by
  have hsilent : (fun p => decide (listToSql [p] ≠ .ok "")) = fun p => !p.isSilent := by
    funext p
    rw [listToSql_singleton, Bool.eq_iff_iff, decide_eq_true_eq, Bool.not_eq_true',
      ← Bool.not_eq_true, ne_eq, not_iff_not]
    exact toSql_eq_empty_iff p
  rw [hsilent, listToSql, listToSql, toSqlList_filter, map_bind_eq]
  simp only [linked_filter]

/-- A list of conditions fails with the error of the first one that fails. -/
theorem listToSql_eq_error_iff {ps : List Predicate} {e : QueryError} :
    listToSql ps = .error e ↔ ∃ front p back, ps = front ++ p :: back ∧
      (∀ x ∈ front, ∃ t, listToSql [x] = .ok t) ∧ listToSql [p] = .error e := by
  have hlist : listToSql ps = .error e ↔ toSqlList ps = .error e := by
    rw [listToSql]
    cases toSqlList ps <;> simp [bind, Except.bind, pure, Except.pure]
  have hentry (p : Predicate) :
      p.toSql.map (p.conjunction, ·) = .error e ↔ listToSql [p] = .error e := by
    rw [listToSql_singleton]
    cases p.toSql <;> simp [Except.map]
  have hentries (front : List Predicate) :
      (∀ x ∈ front, ∃ c, x.toSql.map (x.conjunction, ·) = .ok c) ↔
        ∀ x ∈ front, ∃ t, listToSql [x] = .ok t := by
    refine forall₂_congr fun x _ => ?_
    rw [listToSql_singleton]
    cases x.toSql <;> simp [Except.map]
  rw [hlist, toSqlList_eq_mapM, mapM_eq_error_iff]
  simp only [hentry, hentries]

/-- A list with a text has a first condition with a text. -/
theorem exists_leader (hys : listToSql ys = .ok b) (hb : b ≠ "") :
    ∃ silent p rest, ys = silent ++ p :: rest ∧ (∀ x ∈ silent, listToSql [x] = .ok "") ∧
      listToSql [p] ≠ .ok "" := by
  obtain ⟨ds, hds, rfl⟩ := listToSql_eq_ok_iff.mp hys
  have hnot : ¬ ∀ p ∈ ys, p.isSilent := mt (linked_toSqlList_eq_empty_iff hds).mpr hb
  have hsome : (ys.find? (!·.isSilent)).isSome := by
    rw [List.find?_isSome]
    simpa using hnot
  obtain ⟨p, hfind⟩ := Option.isSome_iff_exists.mp hsome
  obtain ⟨hp, silent, rest, rfl, hsilent⟩ := List.find?_eq_some_iff_append.mp hfind
  refine ⟨silent, p, rest, rfl, fun x hx => ?_, ?_⟩
  · rw [listToSql_singleton, toSql_eq_empty_iff]
    simpa using hsilent x hx
  · rw [listToSql_singleton, ne_eq, toSql_eq_empty_iff]
    simpa using hp

/-- Two lists in sequence are written as the second one behind the text of the first. -/
theorem listToSql_append (hxs : listToSql xs = .ok a) (hys : listToSql ys = .ok b) :
    ∃ cs ds, toSqlList xs = .ok cs ∧ toSqlList ys = .ok ds ∧ linked cs = a ∧ linked ds = b ∧
      listToSql (xs ++ ys) = .ok (linked (cs ++ ds)) := by
  obtain ⟨cs, hcs, ha⟩ := listToSql_eq_ok_iff.mp hxs
  obtain ⟨ds, hds, hb⟩ := listToSql_eq_ok_iff.mp hys
  refine ⟨cs, ds, hcs, hds, ha, hb, listToSql_of_toSqlList ?_⟩
  exact toSqlList_append_eq_ok_iff.mpr ⟨cs, hcs, ds, hds, rfl⟩

/-- Between the texts of two lists stands the conjunction of the first condition of the second list
that has a text. -/
theorem listToSql_append_of_leader {silent rest : List Predicate} {p : Predicate}
    (hxs : listToSql xs = .ok a) (ha : a ≠ "") (hys : listToSql (silent ++ p :: rest) = .ok b)
    (hsilent : ∀ x ∈ silent, listToSql [x] = .ok "") (hp : listToSql [p] ≠ .ok "") :
    listToSql (xs ++ (silent ++ p :: rest)) =
      .ok (a ++ " " ++ p.conjunction.token ++ " " ++ b) := by
  obtain ⟨cs, ds, -, hds, rfl, rfl, happend⟩ := listToSql_append hxs hys
  obtain ⟨front, hfront, back, hback, rfl⟩ := toSqlList_append_eq_ok_iff.mp hds
  rw [toSqlList] at hback
  obtain ⟨sql, hsql, hback⟩ := bind_eq_ok.mp hback
  obtain ⟨tail, -, hback⟩ := bind_eq_ok.mp hback
  obtain rfl := Except.ok.inj hback
  have hempty : linked front = "" := by
    rw [linked_toSqlList_eq_empty_iff hfront]
    intro x hx
    rw [← toSql_eq_empty_iff, ← listToSql_singleton]
    exact hsilent x hx
  have hne : sql ≠ "" := by
    rintro rfl
    exact hp ((listToSql_singleton p).trans hsql)
  rw [happend, linked_append_of_leader ha (linked_eq_empty_iff.mp hempty) hne]

/-- **A list of conditions is written piece by piece.**  Conditions without a text of their own make
no difference.  Two lists in sequence that have texts are written as both texts, with the
conjunction of the first condition of the second list that has a text between them; where one list
has no text, the text is that of the other one.  If a condition fails, both lists in sequence fail
with the error of the first one that does. -/
theorem listToSql_append_and_error_iff (xs ys : List Predicate) :
    (∀ a b, listToSql xs = .ok a → listToSql ys = .ok b →
      listToSql (xs.filter fun p => listToSql [p] ≠ .ok "") = .ok a ∧
      (a = "" → listToSql (xs ++ ys) = .ok b) ∧
      (b = "" → listToSql (xs ++ ys) = .ok a) ∧
      (a ≠ "" → b ≠ "" → ∃ silent p rest, ys = silent ++ p :: rest ∧
        (∀ x ∈ silent, listToSql [x] = .ok "") ∧ listToSql [p] ≠ .ok "" ∧
        listToSql (xs ++ ys) = .ok (a ++ " " ++ p.conjunction.token ++ " " ++ b))) ∧
    ∀ e, listToSql (xs ++ ys) = .error e ↔ ∃ front p back, xs ++ ys = front ++ p :: back ∧
      (∀ x ∈ front, ∃ t, listToSql [x] = .ok t) ∧ listToSql [p] = .error e := by
  refine ⟨fun a b hxs hys => ⟨?_, fun ha => ?_, fun hb => ?_, fun ha hb => ?_⟩,
    fun e => listToSql_eq_error_iff⟩
  · rw [listToSql_filter, hxs]
  · obtain ⟨cs, ds, -, -, rfl, rfl, happend⟩ := listToSql_append hxs hys
    rw [happend, linked_append, ha, linked_eq_foldl ds]
  · obtain ⟨cs, ds, -, -, rfl, rfl, happend⟩ := listToSql_append hxs hys
    rw [happend, linked_append, foldl_link_of_empty (linked_eq_empty_iff.mp hb)]
  · obtain ⟨silent, p, rest, rfl, hsilent, hp⟩ := exists_leader hys hb
    exact ⟨silent, p, rest, rfl, hsilent, hp, listToSql_append_of_leader hxs ha hys hsilent hp⟩

/-- Pieces of SQL without text stand at the end of the first list and at the front of the second. -/
theorem listToSql_append_and_error_iff_silentBetween :
    let silent : Predicate := .single .and (.value (.raw ""))
    let group : Predicate := .single .or (.group [.single .and (.value (.raw "x"))])
    let unknown : Predicate := .compare .or (.value (.identifier ⟨"a"⟩)) .eq (.value .null)
    listToSql [group, silent] = .ok "(x)" ∧ listToSql [silent, unknown] = .ok "`a` = null" ∧
      listToSql ([group, silent].filter fun p => listToSql [p] ≠ .ok "") = .ok "(x)" ∧
      (∃ lead p rest, [silent, unknown] = lead ++ p :: rest ∧
        (∀ x ∈ lead, listToSql [x] = .ok "") ∧ listToSql [p] ≠ .ok "" ∧
        listToSql [group, silent, silent, unknown] =
          .ok ("(x)" ++ " " ++ p.conjunction.token ++ " " ++ "`a` = null")) ∧
      listToSql [group, silent, silent, unknown] = .ok "(x) OR `a` = null" := by
  intro silent group unknown
  have hfront : listToSql [group, silent] = .ok "(x)" := by decide
  have hback : listToSql [silent, unknown] = .ok "`a` = null" := by decide
  obtain ⟨hkept, -, -, hboth⟩ :=
    (listToSql_append_and_error_iff [group, silent] [silent, unknown]).1 _ _ hfront hback
  exact ⟨hfront, hback, hkept, hboth (by decide) (by decide), by decide⟩

end Predicate

end FluentSql
