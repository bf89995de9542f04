import FluentSql.Client.Instrumented

/-! # Shortened statements

The bytes of a character stand together, so a text can be cut exactly behind the beginnings that
are made of whole characters (`isValid_iff_exists_beginning`).  The search for the last such place
goes back byte by byte; it never leaves one behind (`le_lastBoundary`), and as a character takes at
most four bytes it goes back by at most three (`le_lastBoundary_add_three`).  So what is left of a
text is the longest beginning that takes at most the given number of bytes, and this is what is
logged (`truncateBytes?_isLongest_and_logged`). -/

namespace FluentSql

/-- The text `p` is the longest beginning of `s`, in whole characters, that takes at most `max`
bytes. -/
structure IsLongestWithin (p s : String) (max : Nat) : Prop where
  isBeginning : p.toList <+: s.toList
  fits : p.utf8ByteSize ≤ max
  longest : ∀ r : String, r.toList <+: s.toList → r.utf8ByteSize ≤ max → r.toList <+: p.toList

/-! ### Beginnings and their sizes -/

theorem isBeginning_iff {p s : String} : p.toList <+: s.toList ↔ ∃ r, s = p ++ r := by
  constructor
  · rintro ⟨cs, hcs⟩
    refine ⟨String.ofList cs, ?_⟩
    rw [← String.toList_inj, String.toList_append, String.toList_ofList, hcs]
  · rintro ⟨r, rfl⟩
    rw [String.toList_append]
    exact List.prefix_append _ _

theorem utf8ByteSize_le_of_isBeginning {p s : String} (h : p.toList <+: s.toList) :
    p.utf8ByteSize ≤ s.utf8ByteSize := by
  obtain ⟨r, rfl⟩ := isBeginning_iff.mp h
  rw [String.utf8ByteSize_append]
  omega

/-- A beginning that takes as many bytes as the text is the text. -/
theorem eq_of_isBeginning_of_le {p s : String} (h : p.toList <+: s.toList)
    (hsize : s.utf8ByteSize ≤ p.utf8ByteSize) : p = s := by
  obtain ⟨r, rfl⟩ := isBeginning_iff.mp h
  rw [String.utf8ByteSize_append] at hsize
  have hr : r = "" := String.utf8ByteSize_eq_zero_iff.mp (by omega)
  rw [hr, String.append_empty]

/-- Of two beginnings, the one that takes more bytes starts with the other one. -/
theorem isBeginning_of_le {p q s : String} (hp : p.toList <+: s.toList)
    (hq : q.toList <+: s.toList) (hsize : p.utf8ByteSize ≤ q.utf8ByteSize) :
    p.toList <+: q.toList := by
  rcases List.prefix_or_prefix_of_prefix hp hq with h | h
  · exact h
  · obtain rfl := eq_of_isBeginning_of_le h hsize
    exact List.prefix_rfl

/-! ### Boundaries -/

/-- No character is cut through exactly behind the beginnings of a text. -/
theorem isValid_iff_exists_beginning {s : String} {n : Nat} :
    (⟨n⟩ : String.Pos.Raw).IsValid s ↔
      ∃ p : String, p.toList <+: s.toList ∧ p.utf8ByteSize = n := by
  rw [String.Pos.Raw.isValid_iff_exists_append]
  constructor
  · rintro ⟨p, r, hs, hn⟩
    refine ⟨p, isBeginning_iff.mpr ⟨r, hs⟩, ?_⟩
    have hbyte := congrArg String.Pos.Raw.byteIdx hn
    simpa using hbyte.symm
  · rintro ⟨p, hp, hn⟩
    obtain ⟨r, hs⟩ := isBeginning_iff.mp hp
    refine ⟨p, r, hs, ?_⟩
    simp [String.Pos.Raw.ext_iff, hn]

theorem firstBytes?_append (p r : String) : firstBytes? (p ++ r) p.utf8ByteSize = some p := by
  have hvalid : (⟨p.utf8ByteSize⟩ : String.Pos.Raw).IsValid (p ++ r) :=
    isValid_iff_exists_beginning.mpr ⟨p, isBeginning_iff.mpr ⟨r, rfl⟩, rfl⟩
  rw [firstBytes?, dif_pos hvalid, Option.some.injEq, ← String.toByteArray_inj]
  simp [ByteArray.extract_append_eq_left]

/-- The first bytes of a text are the beginning that takes so many. -/
theorem firstBytes?_eq_some_iff {s p : String} {n : Nat} :
    firstBytes? s n = some p ↔ p.toList <+: s.toList ∧ p.utf8ByteSize = n := by
  constructor
  · intro h
    have hvalid := isSome_firstBytes?_iff.mp (Option.isSome_of_eq_some h)
    obtain ⟨q, hq, rfl⟩ := isValid_iff_exists_beginning.mp hvalid
    obtain ⟨r, rfl⟩ := isBeginning_iff.mp hq
    rw [firstBytes?_append] at h
    obtain rfl := Option.some.inj h
    exact ⟨hq, rfl⟩
  · rintro ⟨hp, rfl⟩
    obtain ⟨r, rfl⟩ := isBeginning_iff.mp hp
    exact firstBytes?_append p r

theorem lastBoundary_le (s : String) (n : Nat) : lastBoundary s n ≤ n := by
  induction n with
  | zero => exact Nat.le_refl 0
  | succ n ih =>
      rw [lastBoundary]
      split
      · exact Nat.le_refl _
      · omega

/-- The search leaves no boundary behind. -/
theorem le_lastBoundary {s : String} {m n : Nat} (h : (⟨m⟩ : String.Pos.Raw).IsValid s)
    (hmn : m ≤ n) : m ≤ lastBoundary s n := by
  induction n with
  | zero => exact hmn
  | succ n ih =>
      rw [lastBoundary]
      split
      · exact hmn
      · rename_i hinvalid
        have hne : m ≠ n + 1 := by
          rintro rfl
          exact hinvalid h
        exact ih (by omega)

/-- Behind a boundary within a text there is another one after at most four bytes. -/
theorem exists_boundary_behind {s : String} {m : Nat} (h : (⟨m⟩ : String.Pos.Raw).IsValid s)
    (hm : m < s.utf8ByteSize) :
    ∃ k, m < k ∧ k ≤ m + 4 ∧ (⟨k⟩ : String.Pos.Raw).IsValid s := by
  obtain ⟨p, hp, rfl⟩ := isValid_iff_exists_beginning.mp h
  obtain ⟨r, rfl⟩ := isBeginning_iff.mp hp
  obtain ⟨cs, rfl⟩ : ∃ cs, r = String.ofList cs := ⟨r.toList, String.ofList_toList.symm⟩
  cases cs with
  | nil => simp at hm
  | cons c cs =>
      refine ⟨(p.push c).utf8ByteSize, ?_, ?_, ?_⟩
      · rw [String.utf8ByteSize_push]
        have := c.utf8Size_pos
        omega
      · rw [String.utf8ByteSize_push]
        have := c.utf8Size_le_four
        omega
      · refine isValid_iff_exists_beginning.mpr ⟨p.push c, ?_, rfl⟩
        simp

theorem le_lastBoundary_add_three {s : String} {max : Nat} (h : max < s.utf8ByteSize) :
    max ≤ lastBoundary s max + 3 := by
  refine Nat.le_of_not_lt fun hfar => ?_
  have hle := lastBoundary_le s max
  obtain ⟨k, hlt, hk, hvalid⟩ := exists_boundary_behind (isValid_lastBoundary s max) (by omega)
  have := le_lastBoundary hvalid (n := max) (by omega)
  omega

/-! ### What is left of a text -/

theorem truncateBytes_of_eq_some {s p : String} {max : Nat} (h : truncateBytes? s max = some p) :
    truncateBytes s max = p := by
  unfold truncateBytes
  simp [h]

/-- A text that fits is left as it is. -/
theorem truncateBytes?_of_le {s : String} {max : Nat} (h : s.utf8ByteSize ≤ max) :
    truncateBytes? s max = some s := if_pos h

/-- A text that does not fit is left up to its last boundary within the limit. -/
theorem exists_truncateBytes?_of_lt {s : String} {max : Nat} (h : max < s.utf8ByteSize) :
    ∃ p : String, truncateBytes? s max = some p ∧ p.toList <+: s.toList ∧
      p.utf8ByteSize = lastBoundary s max := by
  obtain ⟨p, hp, hsize⟩ := isValid_iff_exists_beginning.mp (isValid_lastBoundary s max)
  refine ⟨p, ?_, hp, hsize⟩
  rw [truncateBytes?, if_neg (Nat.not_le.mpr h)]
  exact firstBytes?_eq_some_iff.mpr ⟨hp, hsize⟩

theorem isLongestWithin_self {s : String} {max : Nat} (h : s.utf8ByteSize ≤ max) :
    IsLongestWithin s s max where
  isBeginning := List.prefix_rfl
  fits := h
  longest _ hr _ := hr

/-- The beginning up to the last boundary within the limit is the longest one. -/
theorem isLongestWithin_of_lastBoundary {s p : String} {max : Nat} (hp : p.toList <+: s.toList)
    (hsize : p.utf8ByteSize = lastBoundary s max) : IsLongestWithin p s max where
  isBeginning := hp
  fits := hsize ▸ lastBoundary_le s max
  longest r hr hfits := by
    have hvalid : (⟨r.utf8ByteSize⟩ : String.Pos.Raw).IsValid s :=
      isValid_iff_exists_beginning.mpr ⟨r, hr, rfl⟩
    have hle := le_lastBoundary hvalid hfits
    exact isBeginning_of_le hr hp (by omega)

/-- There is one longest beginning. -/
theorem IsLongestWithin.unique {p q s : String} {max : Nat} (hp : IsLongestWithin p s max)
    (hq : IsLongestWithin q s max) : p = q := by
  have hpq := hq.longest p hp.isBeginning hp.fits
  have hqp := hp.longest q hq.isBeginning hq.fits
  exact eq_of_isBeginning_of_le hpq (utf8ByteSize_le_of_isBeginning hqp)

namespace ClientConfig

variable {c : ClientConfig} {s : String}

/-- An event shows the statement as it is logged. -/
theorem sql_of_event? {α : Type} {kind : CallKind} {files : Nat} {result : Except QueryError α}
    {e : LogEvent} (h : c.event? kind s files result = some e) : e.sql = c.loggedSql s := by
  unfold event? at h
  split at h
  · dsimp only at h
    split at h <;> obtain rfl := Option.some.inj h <;> rfl
  · cases h

theorem loggedSql_of_le {max : Nat} (hc : c.maxSqlBytes = some max) (hs : s.utf8ByteSize ≤ max) :
    c.loggedSql s = s := by
  unfold loggedSql
  rw [hc]
  exact if_neg (Nat.not_lt.mpr hs)

theorem loggedSql_of_lt {max : Nat} {p : String} (hc : c.maxSqlBytes = some max)
    (hs : max < s.utf8ByteSize) (hp : truncateBytes? s max = some p) :
    c.loggedSql s = p ++ "..." := by
  unfold loggedSql
  rw [hc]
  dsimp only
  rw [if_pos hs, truncateBytes_of_eq_some hp]

theorem loggedSql_of_none (hc : c.maxSqlBytes = none) : c.loggedSql s = s := by
  unfold loggedSql
  rw [hc]

end ClientConfig

/-- **A statement is logged up to the last character boundary within the limit.**  For every text
and every limit the search ends, the cut goes through no character, and what is left is the one
longest beginning that takes at most so many bytes: the text itself if it fits, and else at most
three bytes less than the limit.  The events of a client with this limit show a text that fits as it
is, and of a longer one what is left, with an ellipsis; without a limit they show every text. -/
theorem truncateBytes?_isLongest_and_logged (s : String) (max : Nat) :
    ∃ p, truncateBytes? s max = some p ∧ (∀ q, IsLongestWithin q s max ↔ q = p) ∧
      (s.utf8ByteSize ≤ max → p = s) ∧
      (max < s.utf8ByteSize → p.utf8ByteSize ≤ max ∧ max ≤ p.utf8ByteSize + 3) ∧
      ∀ c : ClientConfig,
        (c.maxSqlBytes = some max →
          c.loggedSql s = if s.utf8ByteSize ≤ max then s else p ++ "...") ∧
        (c.maxSqlBytes = none → c.loggedSql s = s) ∧
        ∀ (α : Type) (kind : CallKind) (files : Nat) (result : Except QueryError α) (e : LogEvent),
          c.event? kind s files result = some e → e.sql = c.loggedSql s := by
  rcases Nat.lt_or_ge max s.utf8ByteSize with hs | hs
  · obtain ⟨p, hp, hbeginning, hsize⟩ := exists_truncateBytes?_of_lt hs
    have hlongest := isLongestWithin_of_lastBoundary hbeginning hsize
    have hnear := le_lastBoundary_add_three hs
    refine ⟨p, hp, fun q => ⟨fun hq => hq.unique hlongest, fun hq => hq ▸ hlongest⟩,
      fun hle => by omega, fun _ => ⟨hlongest.fits, by omega⟩, fun c => ⟨fun hc => ?_,
      ClientConfig.loggedSql_of_none, fun _ _ _ _ _ => ClientConfig.sql_of_event?⟩⟩
    rw [if_neg (Nat.not_le.mpr hs)]
    exact ClientConfig.loggedSql_of_lt hc hs hp
  · have hlongest := isLongestWithin_self hs
    refine ⟨s, truncateBytes?_of_le hs, fun q => ⟨fun hq => hq.unique hlongest,
      fun hq => hq ▸ hlongest⟩, fun _ => rfl, fun hlt => by omega, fun c => ⟨fun hc => ?_,
      ClientConfig.loggedSql_of_none, fun _ _ _ _ _ => ClientConfig.sql_of_event?⟩⟩
    rw [if_pos hs]
    exact ClientConfig.loggedSql_of_le hc hs

/-- The limit 7 falls into the last one of three characters, of 1, 3 and 4 bytes. -/
theorem truncateBytes?_isLongest_and_logged_midCharacter :
    let s := "a€😀"
    let c : ClientConfig := { maxSqlBytes := some 7 }
    let e : LogEvent := ⟨.debug, .select, "a€...", 0, .ok⟩
    7 < s.utf8ByteSize ∧ c.maxSqlBytes = some 7 ∧ c.event? .select s 0 (.ok ()) = some e ∧
      IsLongestWithin "a€" s 7 ∧ 7 ≤ "a€".utf8ByteSize + 3 ∧ c.loggedSql s = "a€..." ∧
      e.sql = c.loggedSql s := by
  intro s c e
  have hs : 7 < s.utf8ByteSize := by decide
  have hevent : c.event? .select s 0 (.ok ()) = some e := by decide
  obtain ⟨p, hp, hlongest, -, hnear, hlogged⟩ := truncateBytes?_isLongest_and_logged s 7
  have hleft : truncateBytes? s 7 = some "a€" := by decide
  obtain rfl := Option.some.inj (hleft.symm.trans hp)
  obtain ⟨hsql, -, hshown⟩ := hlogged c
  refine ⟨hs, rfl, hevent, (hlongest _).mpr rfl, (hnear hs).2, ?_, hshown _ _ _ _ _ hevent⟩
  rw [hsql rfl, if_neg (Nat.not_le.mpr hs)]
  rfl

end FluentSql
