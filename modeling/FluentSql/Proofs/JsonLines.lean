import FluentSql.Proofs.ByteOrder
import FluentSql.Proofs.Insertion
import FluentSql.Proofs.JsonReading
import FluentSql.Proofs.Statement

/-! # Rows as lines of JSON

The payload of named rows has one line for each row (`InsertRow.hasLines_jsonLines`): a line break
in a column or in a text is escaped, and no byte of an encoding with several bytes is the byte of
a line break.  The line is read back as one object with the forms of the row's values
(`InsertRow.exists_toJson_isToldBy`), and a JSON value without objects is the form of the value
made from it (`Value.toJson_ofJson`), so the lines tell the rows (`InsertRow.jsonLines_tells`). -/

namespace FluentSql

/-! ### Lines -/

namespace Text

open String (utf8EncodeChar)

/-- The byte that ends a line. -/
def lineBreak : UInt8 := 10

/-- The text consists of the given lines, with a line break behind each and none inside. -/
def HasLines (s : String) (lines : List String) : Prop :=
  (bytes s).splitOn lineBreak = lines.map bytes ++ [[]]

theorem bytes_append (s t : String) : bytes (s ++ t) = bytes s ++ bytes t := by
  simp [bytes_eq_flatMap]

theorem eq_newline_of_mem_utf8EncodeChar {c : Char} (h : lineBreak ∈ utf8EncodeChar c) :
    c = '\n' := by
  have hbyte {m : Nat} (hm : m < 256) : lineBreak = UInt8.ofNat m ↔ m = 10 := by
    rw [← UInt8.toNat_inj, UInt8.toNat_ofNat_of_lt' hm]
    exact eq_comm
  have hc := val_toNat_lt c
  have hval : c.val.toNat = 10 → c = '\n' := fun hval => Char.ext (UInt32.toNat_inj.mp hval)
  simp only [utf8EncodeChar] at h
  generalize c.val.toNat = m at hc hval h
  -- every byte of a longer encoding is at least 128
  split_ifs at h <;>
    simp (disch := omega) only [List.mem_cons, List.not_mem_nil, or_false, hbyte] at h
  · exact hval h
  all_goals omega

theorem lineBreak_not_mem_bytes {s : String} (h : '\n' ∉ s.toList) : lineBreak ∉ bytes s := by
  rw [bytes_eq_flatMap, List.mem_flatMap]
  rintro ⟨c, hc, hbreak⟩
  exact h (eq_newline_of_mem_utf8EncodeChar hbreak ▸ hc)

theorem hasLines_nil : HasLines "" [] := rfl

theorem HasLines.cons {s line : String} {lines : List String} (h : HasLines s lines)
    (hline : '\n' ∉ line.toList) : HasLines (line ++ "\n" ++ s) (line :: lines) := by
  have hbreak : bytes "\n" = [lineBreak] := rfl
  rw [HasLines, bytes_append, bytes_append, hbreak, List.append_assoc, List.singleton_append,
    List.splitOn_append_cons_self_of_not_mem (lineBreak_not_mem_bytes hline), h]
  rfl

end Text

/-! ### Values that lie in rows -/

namespace Json

/-- The JSON values without objects whose numbers are 64-bit integers. -/
inductive IsFlat : Json → Prop
  | null : IsFlat .null
  | bool (b : Bool) : IsFlat (.bool b)
  | int {n : Int} (hn : -Nat.pow 2 63 ≤ n ∧ n < Nat.pow 2 64) : IsFlat (.int n)
  | string (s : String) : IsFlat (.string s)
  | array {items : List Json} (hitems : ∀ v ∈ items, IsFlat v) : IsFlat (.array items)

theorem IsFlat.isWhole {v : Json} (h : v.IsFlat) : v.IsWhole := by
  induction h with
  | null => exact .null
  | bool b => exact .bool b
  | int hn => exact .int hn
  | string s => exact .string s
  | array _ ih => exact .array ih

theorem newline_not_mem_escapeChar (c : Char) : '\n' ∉ escapeChar c := by
  have hhex : ∀ n < 32, '\n' ≠ Text.hexDigit (n / 16) ∧ '\n' ≠ Text.hexDigit n := by decide
  unfold escapeChar
  split_ifs with _ _ _ _ hnewline _ _ hcontrol
  iterate 7 decide
  · simp [hhex _ hcontrol]
  · simp [eq_comm, hnewline]

theorem newline_not_mem_stringText (s : String) : '\n' ∉ (stringText s).toList := by
  simp [toList_stringText, newline_not_mem_escapeChar]

theorem not_mem_joined {c : Char} (hc : c ≠ ',') :
    ∀ {ts : List (List Char)}, (∀ t ∈ ts, c ∉ t) → c ∉ joined ts
  | [], _ => by simp [joined]
  | [t], h => by
      rw [joined_singleton]
      exact h t List.mem_cons_self
  | t :: u :: ts, h => by
      rw [List.forall_mem_cons] at h
      rw [joined_cons_cons, List.mem_append, List.mem_cons, not_or, not_or]
      exact ⟨h.1, hc, not_mem_joined hc h.2⟩

/-- No written value has a line break. -/
theorem newline_not_mem_text {v : Json} (h : v.IsWhole) : '\n' ∉ v.text.toList := by
  induction h with
  | null => decide
  | bool b => cases b <;> decide
  | @int n _ =>
      intro hmem
      have hnumeric : isNumeric '\n' := isNumeric_of_mem_intText (n := n) hmem
      cases hnumeric
  | string s => exact newline_not_mem_stringText s
  | array _ ih =>
      have hitems := not_mem_joined (by decide) (List.forall_mem_map.mpr ih)
      simp [toList_text_array, hitems]
  | @object members _ _ ih =>
      have hmembers : ∀ m ∈ members, '\n' ∉ memberChars m := fun m hm => by
        simp [memberChars, ih m hm, newline_not_mem_escapeChar]
      have hjoined := not_mem_joined (by decide) (List.forall_mem_map.mpr hmembers)
      simp [toList_text_object, hjoined]

end Json

namespace Value

/-- The JSON value says the same as the value. -/
inductive HasForm : Value → Json → Prop
  | null : HasForm .null .null
  | bool (b : Bool) : HasForm (.bool b) (.bool b)
  | int (n : Int64) : HasForm (.int n) (.int n.toInt)
  | uint (n : UInt64) : HasForm (.uint n) (.int n.toNat)
  | string (s : String) : HasForm (.string s) (.string s)
  | array {items : List Value} {forms : List Json} (h : List.Forall₂ HasForm items forms) :
      HasForm (.array items) (.array forms)

/-- Whether the value is a name or a piece of SQL. -/
def isSql : Value → Bool
  | .identifier _ | .raw _ => true
  | _ => false

/-- Whether the value is a floating point number. -/
def isFloat : Value → Bool
  | .float _ => true
  | _ => false

mutual

/-- The value and, if it is an array, all values in it at any depth. -/
def parts : Value → List Value
  | .array items => .array items :: partsList items
  | v => [v]

/-- The parts of several values. -/
def partsList : List Value → List Value
  | [] => []
  | v :: vs => v.parts ++ partsList vs

end

theorem partsList_eq_flatMap (vs : List Value) : partsList vs = vs.flatMap parts := by
  induction vs with
  | nil => rfl
  | cons v vs ih => rw [partsList, ih, List.flatMap_cons]

/-- The parts of an array are itself and the parts of its items. -/
theorem forall_mem_parts_array {items : List Value} {P : Value → Prop} :
    (∀ p ∈ (array items).parts, P p) ↔ P (array items) ∧ ∀ v ∈ items, ∀ p ∈ v.parts, P p := by
  rw [parts, List.forall_mem_cons, partsList_eq_flatMap, List.forall_mem_flatMap]

theorem toJsonList_eq_ok_iff {vs : List Value} {forms : List Json} :
    toJsonList vs = .ok forms ↔ List.Forall₂ (fun v form => v.toJson = .ok form) vs forms := by
  induction vs generalizing forms with
  | nil => simp [toJsonList, eq_comm]
  | cons v vs ih =>
      simp only [toJsonList, bind_eq_ok, ih, List.forall₂_cons_left_iff]
      constructor
      · rintro ⟨form, hform, forms', hforms, h⟩
        exact ⟨form, forms', hform, hforms, (Except.ok.inj h).symm⟩
      · rintro ⟨form, forms', hform, hforms, rfl⟩
        exact ⟨form, hform, forms', hforms, rfl⟩

theorem exists_toJson_array_iff {items : List Value} :
    (∃ form, (array items).toJson = .ok form) ↔ ∀ v ∈ items, ∃ form, v.toJson = .ok form := by
  simp only [toJson, bind_eq_ok, toJsonList_eq_ok_iff, ← exists_forall₂_iff]
  constructor
  · rintro ⟨_, forms, hforms, -⟩
    exact ⟨forms, hforms⟩
  · rintro ⟨forms, hforms⟩
    exact ⟨_, forms, hforms, rfl⟩

/-- Names and pieces of SQL are all that has no form in JSON. -/
theorem exists_toJson_iff : ∀ v : Value, (∃ form, v.toJson = .ok form) ↔ ∀ p ∈ v.parts, ¬ p.isSql
  | .null | .bool _ | .int _ | .uint _ | .string _ | .identifier _ | .raw _ => by
      simp [toJson, parts, isSql]
  | .float x => by
      have hform : ∃ form, (Value.float x).toJson = .ok form := by
        rw [toJson]
        split <;> exact ⟨_, rfl⟩
      simp [hform, parts, isSql]
  | .array items => by
      have hitems : ∀ v ∈ items, (∃ form, v.toJson = .ok form) ↔ ∀ p ∈ v.parts, ¬ p.isSql :=
        fun v _ => exists_toJson_iff v
      have harray : ¬ (array items).isSql := Bool.false_ne_true
      rw [exists_toJson_array_iff, forall_mem_parts_array, and_iff_right harray]
      exact forall₂_congr hitems

/-- A value is a literal if no part of it is SQL or a floating point number. -/
theorem isLiteral_of_parts : ∀ v : Value,
    (∀ p ∈ v.parts, ¬ p.isSql) → (∀ p ∈ v.parts, ¬ p.isFloat) → v.IsLiteral
  | .null, _, _ => .null
  | .bool b, _, _ => .bool b
  | .int n, _, _ => .int n
  | .uint n, _, _ => .uint n
  | .string s, _, _ => .string s
  | .float _, _, hfloat => absurd rfl (hfloat _ List.mem_cons_self)
  | .identifier _, hsql, _ | .raw _, hsql, _ => absurd rfl (hsql _ List.mem_cons_self)
  | .array _, hsql, hfloat => .array fun v hv =>
      isLiteral_of_parts v ((forall_mem_parts_array.mp hsql).2 v hv)
        ((forall_mem_parts_array.mp hfloat).2 v hv)

/-- A literal has its form in JSON. -/
theorem IsLiteral.toJson {v : Value} (h : v.IsLiteral) :
    ∃ form, v.toJson = .ok form ∧ v.HasForm form ∧ form.IsFlat := by
  induction h with
  | null => exact ⟨_, rfl, .null, .null⟩
  | bool b => exact ⟨_, rfl, .bool b, .bool b⟩
  | int n =>
      have hle := n.le_toInt
      have hlt := n.toInt_lt
      rw [Value.toJson]
      exact ⟨_, rfl, .int n, .int (by rw [Literal.two_pow_63, Literal.two_pow_64]; omega)⟩
  | uint n =>
      have hlt := n.toNat_lt
      rw [Value.toJson]
      exact ⟨_, rfl, .uint n, .int (by rw [Literal.two_pow_63, Literal.two_pow_64]; omega)⟩
  | string s => exact ⟨_, rfl, .string s, .string s⟩
  | @array items _ ih =>
      obtain ⟨forms, hforms⟩ := exists_forall₂_iff.mpr ih
      have htoJson : toJsonList items = .ok forms :=
        toJsonList_eq_ok_iff.mpr (hforms.imp fun _ _ h => h.1)
      have hflat : ∀ form ∈ forms, form.IsFlat :=
        forall_mem_of_forall₂ hforms fun _ _ h => h.2.2
      refine ⟨.array forms, ?_, .array (hforms.imp fun _ _ h => h.2.1), .array hflat⟩
      rw [Value.toJson, htoJson]
      rfl

theorem ofJsonList_eq_map (vs : List Json) : ofJsonList vs = vs.map ofJson := by
  induction vs with
  | nil => rfl
  | cons v vs ih => rw [ofJsonList, ih, List.map_cons]

/-- The value of a flat JSON value has that form. -/
theorem toJson_ofJson {form : Json} (h : form.IsFlat) : (ofJson form).toJson = .ok form := by
  induction h with
  | null => rfl
  | bool b => rfl
  | @int n hn =>
      rw [Literal.two_pow_63, Literal.two_pow_64] at hn
      rw [ofJson, Literal.two_pow_63]
      split
      · rename_i hsigned
        rw [Value.toJson, Int64.toInt_ofInt_of_le (by omega) (by omega)]
      · have hnat : n.toNat < 18446744073709551616 := by omega
        rw [Value.toJson, UInt64.toNat_ofNat_of_lt' hnat, Int.toNat_of_nonneg (by omega)]
  | string s => rfl
  | @array items _ ih =>
      have hforms : toJsonList (ofJsonList items) = .ok items := by
        rw [toJsonList_eq_ok_iff, ofJsonList_eq_map, List.forall₂_map_left_iff,
          List.forall₂_same]
        exact ih
      rw [ofJson, Value.toJson, hforms]
      rfl

end Value

/-! ### Rows -/

namespace InsertRow

variable {rows : List InsertRow} {payload : String}

/-- The line holds one JSON object: under each column of the row the form of its value, and no
other member. -/
def IsToldBy (row : InsertRow) (line : String) : Prop :=
  ∃ (values : KeyMap Value) (members : KeyMap Json),
    row = named values ∧ Json.parse? line = some (.object members.entries) ∧
      members.keys = values.keys ∧
      ∀ k v, values.get? k = some v → ∃ form, members.get? k = some form ∧ v.HasForm form

theorem membersJson_eq_ok_iff {es : List (String × Value)} {ms : List (String × Json)} :
    membersJson es = .ok ms ↔
      List.Forall₂ (fun e m => e.1 = m.1 ∧ e.2.toJson = .ok m.2) es ms := by
  induction es generalizing ms with
  | nil => simp [membersJson, eq_comm]
  | cons e es ih =>
      obtain ⟨name, v⟩ := e
      simp only [membersJson, bind_eq_ok, ih, List.forall₂_cons_left_iff]
      constructor
      · rintro ⟨form, hform, rest, hrest, h⟩
        exact ⟨(name, form), rest, ⟨rfl, hform⟩, hrest, (Except.ok.inj h).symm⟩
      · rintro ⟨⟨name', form⟩, rest, ⟨rfl, hform⟩, hrest, rfl⟩
        exact ⟨form, hform, rest, hrest, rfl⟩

theorem exists_toJson_iff {row : InsertRow} : (∃ form, row.toJson = .ok form) ↔
    row.IsNamed ∧ ∀ v ∈ row.values, ∀ p ∈ v.parts, ¬ p.isSql := by
  cases row with
  | positional values => simp [toJson, IsNamed]
  | named m =>
      have hmembers : (∃ ms, membersJson m.entries = .ok ms) ↔
          ∀ e ∈ m.entries, ∀ p ∈ e.2.parts, ¬ p.isSql := by
        simp only [membersJson_eq_ok_iff, exists_forall₂_iff]
        refine forall₂_congr fun e _ => ?_
        rw [← Value.exists_toJson_iff]
        constructor
        · rintro ⟨m, -, h⟩
          exact ⟨m.2, h⟩
        · rintro ⟨form, h⟩
          exact ⟨(e.1, form), rfl, h⟩
      have hvalues : (∀ v ∈ (named m).values, ∀ p ∈ v.parts, ¬ p.isSql) ↔
          ∀ e ∈ m.entries, ∀ p ∈ e.2.parts, ¬ p.isSql := List.forall_mem_map
      rw [hvalues, ← hmembers, and_iff_right ⟨m, rfl⟩]
      simp only [toJson, bind_eq_ok]
      constructor
      · rintro ⟨_, ms, hms, -⟩
        exact ⟨ms, hms⟩
      · rintro ⟨ms, hms⟩
        exact ⟨_, ms, hms, rfl⟩

theorem jsonLines_cons_eq_ok_iff {row : InsertRow} :
    jsonLines (row :: rows) = .ok payload ↔ ∃ form rest, row.toJson = .ok form ∧
      jsonLines rows = .ok rest ∧ payload = form.text ++ "\n" ++ rest := by
  simp only [jsonLines, bind_eq_ok]
  constructor
  · rintro ⟨form, hform, rest, hrest, h⟩
    exact ⟨form, rest, hform, hrest, (Except.ok.inj h).symm⟩
  · rintro ⟨form, rest, hform, hrest, rfl⟩
    exact ⟨form, hform, rest, hrest, rfl⟩

theorem exists_jsonLines_iff : (∃ payload, jsonLines rows = .ok payload) ↔
    ∀ row ∈ rows, ∃ form, row.toJson = .ok form := by
  induction rows with
  | nil => simp [jsonLines]
  | cons row rows ih =>
      simp only [jsonLines_cons_eq_ok_iff, List.forall_mem_cons, ← ih]
      constructor
      · rintro ⟨_, form, rest, hform, hrest, -⟩
        exact ⟨⟨form, hform⟩, rest, hrest⟩
      · rintro ⟨⟨form, hform⟩, rest, hrest⟩
        exact ⟨_, form, rest, hform, hrest, rfl⟩

/-- If the form of each row is a JSON value that its text tells, the payload has one line for each
row, which tells the form. -/
theorem hasLines_jsonLines {forms : List Json}
    (h : List.Forall₂ (fun row form => row.toJson = .ok form ∧ form.IsWhole) rows forms) :
    ∃ payload, jsonLines rows = .ok payload ∧ Text.HasLines payload (forms.map Json.text) := by
  induction h with
  | nil => exact ⟨"", rfl, Text.hasLines_nil⟩
  | cons hrow _ ih =>
      obtain ⟨rest, hrest, hlines⟩ := ih
      exact ⟨_, jsonLines_cons_eq_ok_iff.mpr ⟨_, rest, hrow.1, hrest, rfl⟩,
        hlines.cons (Json.newline_not_mem_text hrow.2)⟩

theorem keys_eq_of_forall₂ {es : List (String × Value)} {ms : List (String × Json)}
    (h : List.Forall₂ (fun e m => e.1 = m.1) es ms) : ms.map Prod.fst = es.map Prod.fst := by
  induction h with
  | nil => rfl
  | cons hem _ ih => rw [List.map_cons, List.map_cons, ih, hem]

theorem lookup_of_forall₂ {es : List (String × Value)} {ms : List (String × Json)}
    {R : Value → Json → Prop} (h : List.Forall₂ (fun e m => e.1 = m.1 ∧ R e.2 m.2) es ms)
    {k : String} {v : Value} (hv : es.lookup k = some v) :
    ∃ form, ms.lookup k = some form ∧ R v form := by
  induction h with
  | nil => cases hv
  | @cons e m _ _ hem _ ih =>
      obtain ⟨l, w⟩ := e
      obtain ⟨l', form⟩ := m
      obtain ⟨rfl, hform⟩ : l = l' ∧ R w form := hem
      by_cases hk : k = l
      · rw [hk, List.lookup_cons_self] at hv ⊢
        exact ⟨form, rfl, Option.some.inj hv ▸ hform⟩
      · rw [KeyMap.lookup_cons_of_ne hk] at hv ⊢
        exact ih hv

/-- A named row of literals has a form whose text tells the row. -/
theorem exists_toJson_isToldBy {values : KeyMap Value} (h : ∀ v ∈ values.values, v.IsLiteral) :
    ∃ form, (named values).toJson = .ok form ∧ form.IsWhole ∧
      (named values).IsToldBy form.text := by
  have hmembers : ∃ ms, List.Forall₂ (fun e (m : String × Json) => e.1 = m.1 ∧
      e.2.toJson = .ok m.2 ∧ e.2.HasForm m.2 ∧ m.2.IsFlat) values.entries ms := by
    refine exists_forall₂_iff.mpr fun e he => ?_
    obtain ⟨form, hform⟩ := (h e.2 (List.mem_map_of_mem he)).toJson
    exact ⟨(e.1, form), rfl, hform⟩
  obtain ⟨ms, hms⟩ := hmembers
  have htoJson : membersJson values.entries = .ok ms :=
    membersJson_eq_ok_iff.mpr (hms.imp fun _ _ h => ⟨h.1, h.2.1⟩)
  have hkeys : ms.map Prod.fst = values.entries.map Prod.fst :=
    keys_eq_of_forall₂ (hms.imp fun _ _ h => h.1)
  have hsorted : ms.Pairwise fun a b => a.1 < b.1 := by
    rw [← List.pairwise_map (f := Prod.fst) (R := (· < ·)), hkeys]
    exact values.keys_sorted
  have hflat : ∀ m ∈ ms, m.2.IsFlat := forall_mem_of_forall₂ hms fun _ _ h => h.2.2.2
  have hwhole : (Json.object ms).IsWhole := .object hsorted fun m hm => (hflat m hm).isWhole
  refine ⟨.object ms, ?_, hwhole, values, ⟨ms, hsorted⟩, rfl, Json.parse?_text hwhole, hkeys, ?_⟩
  · rw [toJson, htoJson]
    rfl
  · intro k v hv
    exact lookup_of_forall₂ (hms.imp fun _ _ h => ⟨h.1, h.2.2.1⟩) hv

/-- The row of a JSON object without objects in it has the object as its form. -/
theorem exists_ofJson?_toJson {members : KeyMap Json} (h : ∀ v ∈ members.values, v.IsFlat) :
    ∃ row, ofJson? (.object members.entries) = some row ∧
      row.toJson = .ok (.object members.entries) := by
  have hsorted : (members.entries.map fun m => (m.1, Value.ofJson m.2)).Pairwise
      fun a b => a.1 < b.1 := List.pairwise_map.mpr members.sorted
  have hforms : membersJson (members.entries.map fun m => (m.1, Value.ofJson m.2)) =
      .ok members.entries := by
    rw [membersJson_eq_ok_iff, List.forall₂_map_left_iff, List.forall₂_same]
    exact fun m hm => ⟨rfl, Value.toJson_ofJson (h m.2 (List.mem_map_of_mem hm))⟩
  refine ⟨_, rfl, ?_⟩
  dsimp only
  rw [KeyMap.entries_ofList members.sorted, ofPairs, toJson, KeyMap.entries_ofList hsorted, hforms]
  rfl

theorem exists_rows_of_isFlat {objects : List (KeyMap Json)}
    (h : ∀ members ∈ objects, ∀ v ∈ members.values, v.IsFlat) :
    ∃ rows : List InsertRow,
      objects.map (fun members => ofJson? (.object members.entries)) = rows.map some ∧
        List.Forall₂ (fun row form => row.toJson = .ok form ∧ form.IsWhole) rows
          (objects.map fun members => .object members.entries) := by
  induction objects with
  | nil => exact ⟨[], rfl, .nil⟩
  | cons members objects ih =>
      rw [List.forall_mem_cons] at h
      obtain ⟨row, hrow, htoJson⟩ := exists_ofJson?_toJson h.1
      obtain ⟨rows, hrows, hforms⟩ := ih h.2
      have hwhole : (Json.object members.entries).IsWhole :=
        .object members.sorted fun m hm => (h.1 m.2 (List.mem_map_of_mem hm)).isWhole
      refine ⟨row :: rows, ?_, .cons ⟨htoJson, hwhole⟩ hforms⟩
      rw [List.map_cons, hrow, hrows, List.map_cons]

end InsertRow

/-- **The payload of named rows tells the rows, line by line.**  Rows have a payload if and only if
all are named and no value at any depth is a name or a piece of SQL.  If there are no floating
point numbers either, the payload is one line for each row, in the order of the rows, which ends
with the only line break in it and holds one JSON object: under each column of the row the form
of its value, and nothing else.  The rows of JSON objects that hold neither objects nor other
numbers than 64-bit integers have a payload, and its lines are read back as these objects. -/
theorem InsertRow.jsonLines_tells :
    (∀ rows : List InsertRow, (∃ payload, jsonLines rows = .ok payload) ↔
      ∀ row ∈ rows, row.IsNamed ∧ ∀ v ∈ row.values, ∀ p ∈ v.parts, ¬ p.isSql) ∧
    (∀ (rows : List InsertRow) (payload : String),
      (∀ row ∈ rows, ∀ v ∈ row.values, ∀ p ∈ v.parts, ¬ p.isFloat) →
        jsonLines rows = .ok payload →
          ∃ lines, Text.HasLines payload lines ∧ List.Forall₂ IsToldBy rows lines) ∧
    ∀ objects : List (KeyMap Json), (∀ members ∈ objects, ∀ v ∈ members.values, v.IsFlat) →
      ∃ rows payload lines,
        objects.map (fun members => ofJson? (.object members.entries)) = rows.map some ∧
          jsonLines rows = .ok payload ∧ Text.HasLines payload lines ∧
          lines.map Json.parse? = objects.map fun members => some (.object members.entries) := by
  refine ⟨fun rows => ?_, fun rows payload hfloat hpayload => ?_, fun objects hflat => ?_⟩
  · simp only [exists_jsonLines_iff, exists_toJson_iff]
  · have hrows : ∃ forms, List.Forall₂ (fun row form =>
        (row.toJson = .ok form ∧ form.IsWhole) ∧ row.IsToldBy form.text) rows forms := by
      refine exists_forall₂_iff.mpr fun row hrow => ?_
      obtain ⟨⟨values, rfl⟩, hsql⟩ :=
        exists_toJson_iff.mp (exists_jsonLines_iff.mp ⟨payload, hpayload⟩ row hrow)
      obtain ⟨form, hform, hwhole, htold⟩ := exists_toJson_isToldBy fun v hv =>
        Value.isLiteral_of_parts v (hsql v hv) (hfloat _ hrow v hv)
      exact ⟨form, ⟨hform, hwhole⟩, htold⟩
    obtain ⟨forms, hforms⟩ := hrows
    obtain ⟨payload', hpayload', hlines⟩ := hasLines_jsonLines (hforms.imp fun _ _ h => h.1)
    obtain rfl := Except.ok.inj (hpayload'.symm.trans hpayload)
    exact ⟨_, hlines, List.forall₂_map_right_iff.mpr (hforms.imp fun _ _ h => h.2)⟩
  · obtain ⟨rows, hrows, hforms⟩ := exists_rows_of_isFlat hflat
    obtain ⟨payload, hpayload, hlines⟩ := hasLines_jsonLines hforms
    refine ⟨rows, payload, _, hrows, hpayload, hlines, ?_⟩
    have hwhole := forall_mem_of_forall₂ hforms fun _ _ h => h.2
    rw [List.map_map, List.map_map]
    exact List.map_congr_left fun members hmem =>
      Json.parse?_text (hwhole _ (List.mem_map_of_mem hmem))

/-- A row with line breaks in its column and in its values. -/
def brokenRow : InsertRow :=
  .ofPairs [("a\n\"", .array [.uint 18446744073709551615, .array [.string "\n\\n"]])]

/-- Line breaks in the row break no line. -/
theorem InsertRow.jsonLines_tells_brokenRow :
    (∃ payload lines, jsonLines [brokenRow, brokenRow] = .ok payload ∧
        Text.HasLines payload lines ∧ List.Forall₂ IsToldBy [brokenRow, brokenRow] lines) ∧
      ∃ rows payload lines,
        [KeyMap.ofList [("a\n", Json.array [.int (-1), .string "\n"])]].map
            (fun members => ofJson? (.object members.entries)) = rows.map some ∧
          jsonLines rows = .ok payload ∧ Text.HasLines payload lines ∧
          lines.map Json.parse? =
            [KeyMap.ofList [("a\n", Json.array [.int (-1), .string "\n"])]].map
              fun members => some (.object members.entries) := by
  obtain ⟨hexists, htells, hobjects⟩ := jsonLines_tells
  constructor
  · obtain ⟨payload, hpayload⟩ := (hexists [brokenRow, brokenRow]).mpr fun row hrow => by
      have hbroken : row = brokenRow := by simpa using hrow
      rw [hbroken]
      exact ⟨⟨_, rfl⟩, by decide⟩
    obtain ⟨lines, hlines, htold⟩ := htells _ payload (by decide) hpayload
    exact ⟨payload, lines, hpayload, hlines, htold⟩
  · refine hobjects _ fun members hmembers v hv => ?_
    rw [List.mem_singleton.mp hmembers] at hv
    rw [List.mem_singleton.mp hv]
    refine .array fun w hw => ?_
    rcases List.mem_cons.mp hw with rfl | hw
    · exact .int (by decide)
    · rw [List.mem_singleton.mp hw]
      exact .string _

end FluentSql
