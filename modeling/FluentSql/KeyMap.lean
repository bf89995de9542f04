/-! # Maps with ordered text keys

A `KeyMap` holds its entries by strictly increasing key, in the order of code points (which is
also the order of the UTF-8 bytes).  Two maps with the same look-ups are therefore equal
(`ext_get?`).  The view of a map is `get?`, and each operation has one equation for it:
`get?_insert`, `get?_union`, `get?_ofList`. -/

namespace FluentSql

/-- A finite map from texts, listed by strictly increasing key. -/
structure KeyMap (α : Type) where
  entries : List (String × α)
  sorted : entries.Pairwise fun a b => a.1 < b.1
deriving DecidableEq

namespace KeyMap

variable {α β : Type}

/-- The entries with `x` under `k`, in place of what was there. -/
def insertEntry (k : String) (x : α) : List (String × α) → List (String × α)
  | [] => [(k, x)]
  | e :: es =>
      if k < e.1 then (k, x) :: e :: es
      else if k = e.1 then (k, x) :: es
      else e :: insertEntry k x es

theorem lt_of_not_lt {a b : String} (h : ¬ a < b) (hne : a ≠ b) : b < a :=
  Std.lt_of_le_of_ne (String.not_lt.mp h) (Ne.symm hne)

theorem mem_insertEntry {k : String} {x : α} {e : String × α} {es : List (String × α)}
    (h : e ∈ insertEntry k x es) : e = (k, x) ∨ e ∈ es := by
  induction es with
  | nil => simpa [insertEntry] using h
  | cons d ds ih =>
      rw [insertEntry] at h
      split at h
      · simpa using h
      · split at h
        · rcases List.mem_cons.mp h with h | h
          · exact .inl h
          · exact .inr (List.mem_cons_of_mem _ h)
        · rcases List.mem_cons.mp h with h | h
          · exact .inr (by simp [h])
          · exact (ih h).imp_right (List.mem_cons_of_mem _)

theorem sorted_insertEntry (k : String) (x : α) {es : List (String × α)}
    (h : es.Pairwise fun a b => a.1 < b.1) :
    (insertEntry k x es).Pairwise fun a b => a.1 < b.1 := by
  induction es with
  | nil => simp [insertEntry]
  | cons d ds ih =>
      have hd := List.pairwise_cons.mp h
      rw [insertEntry]
      split
      · rename_i hlt
        refine List.pairwise_cons.mpr ⟨fun e he => ?_, h⟩
        rcases List.mem_cons.mp he with he | he
        · exact he ▸ hlt
        · exact String.lt_trans hlt (hd.1 e he)
      · split
        · rename_i heq
          exact List.pairwise_cons.mpr ⟨fun e he => heq ▸ hd.1 e he, hd.2⟩
        · rename_i hnlt hne
          refine List.pairwise_cons.mpr ⟨fun e he => ?_, ih hd.2⟩
          rcases mem_insertEntry he with he | he
          · exact he ▸ lt_of_not_lt hnlt hne
          · exact hd.1 e he

/-- The map with no entry. -/
def empty : KeyMap α := ⟨[], .nil⟩

instance : Inhabited (KeyMap α) := ⟨empty⟩

/-- The map with `x` under `k`; an entry already under `k` is replaced. -/
def insert (m : KeyMap α) (k : String) (x : α) : KeyMap α :=
  ⟨insertEntry k x m.entries, sorted_insertEntry k x m.sorted⟩

/-- What stands under `k`. -/
def get? (m : KeyMap α) (k : String) : Option α := m.entries.lookup k

/-- Whether something stands under `k`. -/
def contains (m : KeyMap α) (k : String) : Bool := (m.get? k).isSome

/-- The number of entries. -/
def size (m : KeyMap α) : Nat := m.entries.length

/-- The keys, in increasing order. -/
def keys (m : KeyMap α) : List String := m.entries.map Prod.fst

/-- The values, by increasing key. -/
def values (m : KeyMap α) : List α := m.entries.map Prod.snd

/-- The entries of a list, where the last one with a key stands. -/
def ofList (es : List (String × α)) : KeyMap α :=
  es.foldl (fun m e => m.insert e.1 e.2) empty

/-- All entries of `m` and `other`; under a key of both stands the value of `other`. -/
def union (m other : KeyMap α) : KeyMap α :=
  other.entries.foldl (fun r e => r.insert e.1 e.2) m

/-! ### Look-up -/

section Lookup

variable {k l : String} {x : α} {es ds : List (String × α)}

theorem lookup_cons_of_ne (h : k ≠ l) (x : α) (es : List (String × α)) :
    ((l, x) :: es).lookup k = es.lookup k := by
  rw [List.lookup_cons, beq_false_of_ne h]

theorem lookup_insertEntry (k k' : String) (x : α) (es : List (String × α)) :
    (insertEntry k x es).lookup k' = if k' = k then some x else es.lookup k' := by
  induction es with
  | nil =>
      rw [insertEntry]
      by_cases h : k' = k
      · rw [h, List.lookup_cons_self, if_pos rfl]
      · rw [lookup_cons_of_ne h, if_neg h]
  | cons d ds ih =>
      obtain ⟨l, y⟩ := d
      rw [insertEntry]
      split
      · by_cases h : k' = k
        · rw [h, List.lookup_cons_self, if_pos rfl]
        · rw [lookup_cons_of_ne h, if_neg h]
      · split
        · rename_i heq
          obtain rfl : k = l := heq
          by_cases h : k' = k
          · rw [h, List.lookup_cons_self, if_pos rfl]
          · rw [lookup_cons_of_ne h, if_neg h, lookup_cons_of_ne h]
        · rename_i hne
          by_cases h : k' = l
          · rw [h, List.lookup_cons_self, List.lookup_cons_self, if_neg (Ne.symm hne)]
          · rw [lookup_cons_of_ne h, lookup_cons_of_ne h, ih]

@[simp] theorem get?_empty (k : String) : (empty : KeyMap α).get? k = none := rfl

theorem get?_insert (m : KeyMap α) (k k' : String) (x : α) :
    (m.insert k x).get? k' = if k' = k then some x else m.get? k' :=
  lookup_insertEntry k k' x m.entries

theorem get?_foldl_insert (es : List (String × α)) (m : KeyMap α) (k : String) :
    (es.foldl (fun r e => r.insert e.1 e.2) m).get? k =
      (es.reverse.lookup k).or (m.get? k) := by
  induction es generalizing m with
  | nil => simp
  | cons e es ih =>
      obtain ⟨l, x⟩ := e
      rw [List.foldl_cons, ih, get?_insert, List.reverse_cons, List.lookup_append, Option.or_assoc]
      by_cases h : k = l
      · rw [if_pos h, h, List.lookup_cons_self]
        rfl
      · rw [if_neg h, lookup_cons_of_ne h]
        rfl

theorem get?_ofList (es : List (String × α)) (k : String) :
    (ofList es).get? k = es.reverse.lookup k := by
  simp [ofList, get?_foldl_insert]

theorem lookup_eq_none_of_lt (h : ∀ e ∈ es, k < e.1) : es.lookup k = none := by
  rw [List.lookup_eq_none_iff]
  intro e he
  exact bne_iff_ne.mpr fun heq => String.lt_irrefl e.1 (heq ▸ h e he)

theorem lookup_reverse_of_sorted (k : String) (h : es.Pairwise fun a b => a.1 < b.1) :
    es.reverse.lookup k = es.lookup k := by
  induction es with
  | nil => rfl
  | cons e es ih =>
      obtain ⟨l, x⟩ := e
      obtain ⟨hlt, hes⟩ := List.pairwise_cons.mp h
      rw [List.reverse_cons, List.lookup_append, ih hes]
      by_cases hk : k = l
      · subst hk
        rw [lookup_eq_none_of_lt hlt, List.lookup_cons_self, List.lookup_cons_self]
        rfl
      · rw [lookup_cons_of_ne hk, lookup_cons_of_ne hk, List.lookup_nil, Option.or_none]

theorem get?_union (m other : KeyMap α) (k : String) :
    (m.union other).get? k = (other.get? k).or (m.get? k) := by
  rw [union, get?_foldl_insert, lookup_reverse_of_sorted k other.sorted]
  rfl

/-- The first keys of two lists with the same look-ups are equal: the smaller one would not be found
in the other list. -/
theorem not_lt_of_lookup {y : α} (hds : ((l, y) :: ds).Pairwise fun a b => a.1 < b.1)
    (h : ((k, x) :: es).lookup k = ((l, y) :: ds).lookup k) : ¬ k < l := by
  intro hlt
  have hnone : ((l, y) :: ds).lookup k = none := by
    refine lookup_eq_none_of_lt fun e he => ?_
    rcases List.mem_cons.mp he with rfl | he
    · exact hlt
    · exact String.lt_trans hlt ((List.pairwise_cons.mp hds).1 e he)
  rw [List.lookup_cons_self, hnone] at h
  cases h

theorem entries_eq_of_lookup (hes : es.Pairwise fun a b => a.1 < b.1)
    (hds : ds.Pairwise fun a b => a.1 < b.1) (h : ∀ k, es.lookup k = ds.lookup k) : es = ds := by
  induction es generalizing ds with
  | nil =>
      cases ds with
      | nil => rfl
      | cons d ds =>
          have hd := h d.1
          rw [List.lookup_cons_self] at hd
          cases hd
  | cons e es ih =>
      obtain ⟨k, x⟩ := e
      cases ds with
      | nil => simpa using h k
      | cons d ds =>
          obtain ⟨l, y⟩ := d
          obtain ⟨hk, hes'⟩ := List.pairwise_cons.mp hes
          obtain ⟨hl, hds'⟩ := List.pairwise_cons.mp hds
          obtain rfl : k = l := by
            by_cases heq : k = l
            · exact heq
            · have hlt := lt_of_not_lt (not_lt_of_lookup hds (h k)) heq
              exact absurd hlt (not_lt_of_lookup hes (h l).symm)
          obtain rfl : x = y := by simpa using h k
          obtain rfl : es = ds := by
            refine ih hes' hds' fun k' => ?_
            by_cases heq : k' = k
            · rw [heq, lookup_eq_none_of_lt hk, lookup_eq_none_of_lt hl]
            · simpa only [lookup_cons_of_ne heq] using h k'
          rfl

end Lookup

/-- Maps with the same look-ups are equal. -/
theorem ext_get? {m n : KeyMap α} (h : ∀ k, m.get? k = n.get? k) : m = n := by
  have := entries_eq_of_lookup m.sorted n.sorted h
  cases m; cases n; cases this; rfl

/-- Of several maps laid over each other, any two neighbours can be united first. -/
theorem union_assoc (l m n : KeyMap α) : (l.union m).union n = l.union (m.union n) := by
  refine ext_get? fun k => ?_
  rw [get?_union, get?_union, get?_union, get?_union, Option.or_assoc]

/-! ### Keys and values -/

section Membership

variable {m : KeyMap α} {k : String} {x : α} {es ds : List (String × α)}

theorem mem_keys_iff : k ∈ m.keys ↔ m.contains k := by
  rw [keys, contains, get?, List.lookup_isSome_iff, List.mem_map]
  refine exists_congr fun e => and_congr_right fun _ => ?_
  rw [beq_iff_eq, eq_comm]

theorem keys_sorted (m : KeyMap α) : m.keys.Pairwise (· < ·) := by
  rw [keys, List.pairwise_map]
  exact m.sorted

theorem nodup_keys (m : KeyMap α) : m.keys.Nodup := by
  refine m.keys_sorted.imp fun {a b} hlt => ?_
  rintro rfl
  exact String.lt_irrefl _ hlt

theorem contains_insert (m : KeyMap α) (k k' : String) (x : α) :
    (m.insert k x).contains k' ↔ k' = k ∨ m.contains k' := by
  unfold contains
  rw [get?_insert]
  by_cases h : k' = k <;> simp [h]

theorem mem_of_lookup (h : es.lookup k = some x) : (k, x) ∈ es := by
  obtain ⟨front, back, rfl, -⟩ := List.lookup_eq_some_iff.mp h
  exact List.mem_append_right front List.mem_cons_self

/-- Entries with different keys are found wherever they stand. -/
theorem lookup_of_mem (hkeys : (es.map Prod.fst).Nodup) (h : (k, x) ∈ es) :
    es.lookup k = some x := by
  obtain ⟨front, back, rfl⟩ := List.append_of_mem h
  refine List.lookup_eq_some_iff.mpr ⟨front, back, rfl, fun e he => bne_iff_ne.mpr ?_⟩
  rw [List.map_append, List.nodup_append] at hkeys
  exact (hkeys.2.2 e.1 (List.mem_map_of_mem he) k (by simp)).symm

/-- The values are what stands under some key. -/
theorem mem_values_iff : x ∈ m.values ↔ ∃ k, m.get? k = some x := by
  constructor
  · intro hx
    obtain ⟨e, he, rfl⟩ := List.mem_map.mp hx
    exact ⟨e.1, lookup_of_mem m.nodup_keys he⟩
  · rintro ⟨k, hk⟩
    exact List.mem_map.mpr ⟨_, mem_of_lookup hk, rfl⟩

theorem lookup_perm (hkeys : (es.map Prod.fst).Nodup) (h : es.Perm ds) :
    es.lookup k = ds.lookup k := by
  have hkeys' : (ds.map Prod.fst).Nodup := (h.map Prod.fst).nodup_iff.mp hkeys
  refine Option.ext fun x => ⟨fun hx => ?_, fun hx => ?_⟩
  · exact lookup_of_mem hkeys' (h.mem_iff.mp (mem_of_lookup hx))
  · exact lookup_of_mem hkeys (h.mem_iff.mpr (mem_of_lookup hx))

/-- The order of entries with different keys does not matter. -/
theorem ofList_perm (hkeys : (es.map Prod.fst).Nodup) (h : es.Perm ds) : ofList es = ofList ds := by
  refine ext_get? fun k => ?_
  rw [get?_ofList, get?_ofList]
  refine lookup_perm ?_ ((List.reverse_perm es).trans (h.trans (List.reverse_perm ds).symm))
  rw [List.map_reverse]
  exact (List.reverse_perm _).nodup_iff.mpr hkeys

end Membership

end KeyMap

end FluentSql
