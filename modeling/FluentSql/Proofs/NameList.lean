import FluentSql.Proofs.NameReading

/-! # Single names and lists of them

An identifier is one name if its raw text has nothing of the structure of a name: no dot, no alias
separator, and it is not a lone `*`.  Such a text is written between backticks and is read back as
the raw text, and no other text is (`Identifier.isRead_quoted_iff`).

The columns of a statement stand in parentheses with commas between them (`columnsText`).  They are
read back token by token (`readColumns?`), and what is read are the columns exactly if each of them
is one name (`readColumns?_columnsText_iff`). -/

namespace FluentSql

theorem QuotedPart.IsMeant.of_aliasName_eq_none {cs : List Char} {p : QuotedPart}
    (h : IsMeant cs p) (hp : p.aliasName = none) :
    ¬ Identifier.HasSeparator cs ∧ p.name = .ofChars cs := by
  cases h with
  | plain hnone => exact ⟨hnone, rfl⟩
  | aliased => cases hp

namespace Identifier

/-! ### One name -/

/-- The raw text is one name: it has no parts and no alias, and does not stand for all columns. -/
structure IsOneName (id : Identifier) : Prop where
  no_dot : '.' ∉ id.raw.toList
  no_alias : ¬ HasSeparator id.raw.toList
  ne_star : id.raw ≠ "*"

theorem isOneName_iff {id : Identifier} : id.IsOneName ↔
    '.' ∉ id.raw.toList ∧ cutAlias? id.raw.toList = none ∧ id.raw ≠ "*" := by
  rw [cutAlias?_eq_none_iff]
  exact ⟨fun h => ⟨h.no_dot, h.no_alias, h.ne_star⟩, fun ⟨hdot, halias, hstar⟩ =>
    ⟨hdot, halias, hstar⟩⟩

instance (id : Identifier) : Decidable id.IsOneName := decidable_of_iff _ isOneName_iff.symm

/-- Only a raw text without dots has a single part, which is the text itself. -/
theorem parts_eq_singleton_iff {id : Identifier} {part : List Char} :
    id.parts = [part] ↔ '.' ∉ id.raw.toList ∧ id.raw.toList = part := by
  rw [parts_eq]
  split_ifs with hdot
  · refine iff_of_false (fun hpart => ?_) (fun h => h.1 hdot)
    have hlength := two_le_length_splitOn hdot
    rw [← List.length_map Text.trimChars, hpart] at hlength
    exact absurd hlength (by simp)
  · simp [hdot]

theorem ofChars_eq_name_iff {id : Identifier} {n : String} :
    NamePart.ofChars id.raw.toList = .name n ↔ id.raw ≠ "*" ∧ id.raw = n := by
  have hstar : id.raw.toList = ['*'] ↔ id.raw = "*" := by
    rw [← String.toList_inj]
    rfl
  unfold NamePart.ofChars
  split_ifs with h
  · simp [hstar.mp h]
  · simp [mt hstar.mpr h]

/-- One name is written between backticks. -/
theorem IsOneName.toList_quoted {id : Identifier} (h : id.IsOneName) :
    id.quoted.toList = quoteName id.raw.toList := by
  have hpart : quotePart id.raw.toList = quoteName id.raw.toList :=
    quotePart_of_cutAlias? ((cutAlias?_eq_none_iff _).mpr h.no_alias)
  rw [Identifier.toList_quoted, parts_eq_singleton_iff.mpr ⟨h.no_dot, rfl⟩, List.map_singleton,
    List.intercalate_singleton, hpart]

/-- What a single name in backticks is read as is the raw text, which is one name. -/
theorem isOneName_of_areRead {id : Identifier} {n : String}
    (h : QuotedPart.AreRead id.quoted.toList [{ name := .name n }]) :
    id.IsOneName ∧ id.raw = n := by
  rw [toList_quoted] at h
  obtain ⟨ps, hread, hmeant⟩ := QuotedPart.exists_areRead_intercalate id.parts_ne_nil
  obtain rfl := hread.unique h
  generalize hparts : id.parts = parts at hmeant
  cases hmeant with
  | cons hpart hnil =>
      cases hnil
      obtain ⟨hdot, rfl⟩ := parts_eq_singleton_iff.mp hparts
      obtain ⟨halias, hname⟩ := hpart.of_aliasName_eq_none rfl
      obtain ⟨hstar, hraw⟩ := ofChars_eq_name_iff.mp hname.symm
      exact ⟨⟨hdot, halias, hstar⟩, hraw⟩

/-- A quoted name is one name in backticks that reads back as the raw text, exactly if the raw text
is one name. -/
theorem isRead_quoted_iff (id : Identifier) :
    NamePart.IsRead id.quoted.toList (.name id.raw) ↔ id.IsOneName := by
  constructor
  · intro h
    exact (isOneName_of_areRead (.one (.plain h))).1
  · intro h
    rw [h.toList_quoted, ← ofChars_eq_name_iff.mpr ⟨h.ne_star, rfl⟩]
    exact NamePart.isRead_quoteName _

end Identifier

/-! ### Lists of names -/

/-- The columns of a statement in parentheses, behind a blank; nothing if there are none. -/
def columnsText (columns : List String) : String :=
  if columns = [] then ""
  else " (" ++ ", ".intercalate (columns.map fun c => Identifier.quoted ⟨c⟩) ++ ")"

/-- The names in front of a closing parenthesis, with commas between them. -/
def Token.names? : List Token → Option (List String)
  | [.name n, .char ')'] => some [n]
  | .name n :: .char ',' :: .char ' ' :: ts => (names? ts).map (n :: ·)
  | _ => none

/-- The columns that a text lists: names in parentheses behind a blank, or nothing. -/
def readColumns? (s : String) : Option (List String) :=
  match Token.read? s with
  | some [] => some []
  | some (.char ' ' :: .char '(' :: ts) => Token.names? ts
  | _ => none

/-- A quoted name is the token of its raw text if that is one name; otherwise no list of names
starts with it. -/
theorem Identifier.exists_read?_quoted_or (id : Identifier) :
    ∃ ts, Token.read? id.quoted = some ts ∧
      (id.IsOneName ∧ ts = [.name id.raw] ∨
        ¬ id.IsOneName ∧ ∀ us, Token.names? (ts ++ us) = none) := by
  obtain ⟨ps, hread, -⟩ := QuotedPart.exists_areRead_intercalate id.parts_ne_nil
  rw [← toList_quoted] at hread
  obtain ⟨⟨n, aliasName⟩, rest, rfl, htokens⟩ := hread.readFrom
  refine ⟨_, htokens, ?_⟩
  by_cases hone : id.IsOneName
  · have hname := hread.unique (.one (.plain ((isRead_quoted_iff id).mpr hone)))
    obtain ⟨⟨rfl, rfl⟩, rfl⟩ := List.cons.inj hname
    exact .inl ⟨hone, rfl⟩
  · refine .inr ⟨hone, fun us => ?_⟩
    cases n with
    | star => cases aliasName <;> rfl
    | name n =>
        cases aliasName with
        | some a => rfl
        | none =>
            cases rest with
            | nil => exact absurd (isOneName_of_areRead hread).1 hone
            | cons p rest => rfl

/-- A list of names is read back if each of them is one name, and only then. -/
theorem names?_read?_iff {columns : List String} (hne : columns ≠ []) :
    ∃ ts, Token.read? (", ".intercalate (columns.map fun c => Identifier.quoted ⟨c⟩) ++ ")") =
        some ts ∧
      (Token.names? ts = some columns ↔ ∀ c ∈ columns, Identifier.IsOneName ⟨c⟩) := by
  induction columns with
  | nil => exact absurd rfl hne
  | cons c columns ih =>
      obtain ⟨ts, hts, hone⟩ := Identifier.exists_read?_quoted_or ⟨c⟩
      cases columns with
      | nil =>
          refine ⟨ts ++ [.char ')'], ?_, ?_⟩
          · rw [List.map_singleton, String.intercalate_singleton]
            exact Token.read?_append_text (by decide) (by decide) hts
          · rcases hone with ⟨hone, rfl⟩ | ⟨hone, hnone⟩
            · simp [Token.names?, hone]
            · simp [hnone, hone]
      | cons d columns =>
          obtain ⟨us, hus, hiff⟩ := ih (List.cons_ne_nil _ _)
          refine ⟨ts ++ (Token.ofText ", " ++ us), ?_, ?_⟩
          · rw [List.map_cons, List.map_cons, String.intercalate_cons_cons, String.append_assoc]
            exact Token.read?_glue (by decide) (by decide) hts hus
          · rw [List.forall_mem_cons, ← hiff]
            rcases hone with ⟨hone, rfl⟩ | ⟨hone, hnone⟩
            · change (Token.names? us).map (c :: ·) = some (c :: d :: columns) ↔ _
              simp [hone]
            · simp [hnone, hone]

/-- **The columns of a statement are read back exactly if each of them is one name.** -/
theorem readColumns?_columnsText_iff (columns : List String) :
    readColumns? (columnsText columns) = some columns ↔
      ∀ c ∈ columns, Identifier.IsOneName ⟨c⟩ := by
  by_cases hne : columns = []
  · subst hne
    exact iff_of_true rfl nofun
  · obtain ⟨ts, hts, hiff⟩ := names?_read?_iff hne
    have hread : Token.read? (columnsText columns) = some (Token.ofText " (" ++ ts) := by
      rw [columnsText, if_neg hne, String.append_assoc, Token.read?_text_append (by decide), hts]
      rfl
    rw [← hiff, readColumns?, hread]
    rfl

end FluentSql
