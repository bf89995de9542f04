import FluentSql.Proofs.TermReading

/-! # Reading names back

The quoted form of a name is a sequence of parts with dots between them.  A part is a token, or two
tokens with ` AS ` between them, and a token is a bare `*` or a name in backticks
(`QuotedPart.AreRead`).  No text has two readings (`QuotedPart.AreRead.unique`), and the reading of
a quoted name is the structure of its raw text (`Identifier.HasParts`): the pieces between the dots,
each cut at its leftmost alias separator (`Identifier.existsUnique_areRead_quoted`). -/

namespace FluentSql

namespace Identifier

/-! ### Alias separators -/

/-- The word `as` between blanks. -/
inductive IsSeparator : List Char → Prop
  | intro {front back : List Char} {a s : Char} (hfront : front ≠ []) (hback : back ≠ [])
      (blankFront : ∀ c ∈ front, Text.isBlank c) (blankBack : ∀ c ∈ back, Text.isBlank c)
      (ha : isLetterA a) (hs : isLetterS s) : IsSeparator (front ++ a :: s :: back)

/-- Whether there is a separator somewhere in a text. -/
def HasSeparator (cs : List Char) : Prop := ∃ sep, IsSeparator sep ∧ sep <:+: cs

/-- The text `cs` is `before` and `after` with a separator between them, and no separator in it
starts further to the left. -/
structure IsCut (cs before after : List Char) : Prop where
  exists_separator : ∃ sep, IsSeparator sep ∧ cs = before ++ (sep ++ after)
  leftmost : ∀ sep front back, IsSeparator sep → cs = front ++ (sep ++ back) →
    before.length ≤ front.length

theorem IsCut.hasSeparator {cs before after : List Char} (h : IsCut cs before after) :
    HasSeparator cs := by
  obtain ⟨⟨sep, hsep, hcs⟩, -⟩ := h
  exact ⟨sep, hsep, before, after, by rw [hcs, List.append_assoc]⟩

theorem not_isBlank_of_isLetterA {c : Char} (h : isLetterA c) : Text.isBlank c = false := by
  simp only [isLetterA, Bool.or_eq_true, decide_eq_true_eq] at h
  rcases h with rfl | rfl <;> decide

/-- Behind the first blank of a separator the reader of separators finds what is behind it. -/
theorem IsSeparator.afterSeparator? {sep : List Char} (h : IsSeparator sep) (after : List Char) :
    ∃ c cs, sep ++ after = c :: cs ∧ Text.isBlank c ∧
      Identifier.afterSeparator? cs = some (after.dropWhile Text.isBlank) := by
  obtain ⟨hfront, hback, blankFront, blankBack, ha, hs⟩ := h
  rename_i front back a s
  obtain ⟨c, front, rfl⟩ := List.exists_cons_of_ne_nil hfront
  obtain ⟨d, back, rfl⟩ := List.exists_cons_of_ne_nil hback
  obtain ⟨hc, blankFront⟩ := List.forall_mem_cons.mp blankFront
  obtain ⟨hd, blankBack⟩ := List.forall_mem_cons.mp blankBack
  refine ⟨c, front ++ a :: s :: d :: (back ++ after), by simp, hc, ?_⟩
  have hletter := not_isBlank_of_isLetterA ha
  unfold Identifier.afterSeparator?
  rw [List.dropWhile_append_of_pos blankFront, List.dropWhile_cons_of_neg (by simp [hletter])]
  simp [ha, hs, hd, List.dropWhile_append_of_pos blankBack]

/-- What the reader of separators finds stands behind a separator with a blank in front of it. -/
theorem exists_isSeparator {cs after : List Char} (h : afterSeparator? cs = some after) {c : Char}
    (hc : Text.isBlank c) : ∃ sep, IsSeparator sep ∧ c :: cs = sep ++ after := by
  unfold afterSeparator? at h
  split at h
  · rename_i a s b rest hdrop
    split at h
    · rename_i hletters
      simp only [Bool.and_eq_true] at hletters
      obtain ⟨⟨ha, hs⟩, hb⟩ := hletters
      obtain rfl := Option.some.inj h
      have hfront : ∀ d ∈ c :: cs.takeWhile Text.isBlank, Text.isBlank d :=
        List.forall_mem_cons.mpr ⟨hc, fun d hd => List.mem_takeWhile_imp hd⟩
      have hback : ∀ d ∈ b :: rest.takeWhile Text.isBlank, Text.isBlank d :=
        List.forall_mem_cons.mpr ⟨hb, fun d hd => List.mem_takeWhile_imp hd⟩
      refine ⟨_, .intro (List.cons_ne_nil _ _) (List.cons_ne_nil _ _) hfront hback ha hs, ?_⟩
      have hsplit := List.takeWhile_append_dropWhile (p := Text.isBlank) (l := cs)
      rw [hdrop] at hsplit
      simp only [List.cons_append, List.append_assoc, List.takeWhile_append_dropWhile]
      rw [hsplit]
    · cases h
  · cases h

/-! ### Cutting at a separator -/

theorem isCut_of_cutAlias? {cs : List Char} : ∀ {before after : List Char},
    cutAlias? cs = some (before, after) → IsCut cs before after := by
  induction cs with
  | nil => exact fun h => nomatch h
  | cons c cs ih =>
      intro before after h
      rw [cutAlias?] at h
      split at h
      · rename_i found hfound
        obtain ⟨rfl, rfl⟩ := Prod.mk.inj (Option.some.inj h)
        split at hfound
        · rename_i hblank
          obtain ⟨sep, hsep, hcs⟩ := exists_isSeparator hfound hblank
          exact ⟨⟨sep, hsep, hcs⟩, fun _ _ _ _ _ => Nat.zero_le _⟩
        · cases hfound
      · rename_i hnone
        obtain ⟨halves, hhalves, hmap⟩ := Option.map_eq_some_iff.mp h
        obtain ⟨rfl, rfl⟩ := Prod.mk.inj hmap
        obtain ⟨⟨sep, hsep, hcs⟩, hleft⟩ := ih hhalves
        refine ⟨⟨sep, hsep, by rw [hcs]; rfl⟩, fun sep' front back hsep' hfront => ?_⟩
        cases front with
        | nil =>
            -- a separator at the very front would have been found
            obtain ⟨d, ds, hd, hblank, hafter⟩ := hsep'.afterSeparator? back
            rw [List.nil_append, hd] at hfront
            obtain ⟨rfl, rfl⟩ := List.cons.inj hfront
            rw [if_pos hblank, hafter] at hnone
            cases hnone
        | cons d front =>
            obtain ⟨-, hrest⟩ := List.cons.inj hfront
            exact Nat.succ_le_succ (hleft sep' front back hsep' hrest)

theorem cutAlias?_eq_none_iff (cs : List Char) : cutAlias? cs = none ↔ ¬ HasSeparator cs := by
  constructor
  · rintro h ⟨sep, hsep, hinfix⟩
    obtain ⟨c, rest, hc, hblank, hafter⟩ := hsep.afterSeparator? []
    rw [List.append_nil] at hc
    have hnone := cutAlias?_eq_none_of_isInfix hinfix h
    rw [hc, cutAlias?, if_pos hblank, hafter] at hnone
    cases hnone
  · intro h
    cases hcut : cutAlias? cs with
    | none => rfl
    | some halves => exact absurd (isCut_of_cutAlias? hcut).hasSeparator h

/-- There is one leftmost cut, but for the blanks that can belong to the separator or not. -/
theorem IsCut.unique {cs before after before' after' : List Char} (h : IsCut cs before after)
    (h' : IsCut cs before' after') :
    before = before' ∧ Text.trimChars after = Text.trimChars after' := by
  obtain ⟨⟨sep, hsep, hcs⟩, hleft⟩ := h
  obtain ⟨⟨sep', hsep', hcs'⟩, hleft'⟩ := h'
  have hlength : before.length = before'.length :=
    Nat.le_antisymm (hleft _ _ _ hsep' hcs') (hleft' _ _ _ hsep hcs)
  obtain ⟨rfl, hrest⟩ := List.append_inj (hcs.symm.trans hcs') hlength
  obtain ⟨c, ds, hc, -, hafter⟩ := hsep.afterSeparator? after
  obtain ⟨c', ds', hc', -, hafter'⟩ := hsep'.afterSeparator? after'
  rw [hc, hc'] at hrest
  obtain ⟨-, rfl⟩ := List.cons.inj hrest
  have hdrop := Option.some.inj (hafter.symm.trans hafter')
  refine ⟨rfl, ?_⟩
  rw [Text.trimChars, hdrop, Text.trimChars]

/-- A text is split at its leftmost separator, and both halves lose the blanks at their ends. -/
theorem splitChars?_eq_some_iff {cs name aliasName : List Char} :
    splitChars? cs = some (name, aliasName) ↔
      ∃ before after, IsCut cs before after ∧ Text.trimChars before = name ∧
        Text.trimChars after = aliasName := by
  unfold splitChars?
  rw [Option.map_eq_some_iff]
  constructor
  · rintro ⟨halves, hcut, hhalves⟩
    obtain ⟨rfl, rfl⟩ := Prod.mk.inj hhalves
    exact ⟨_, _, isCut_of_cutAlias? hcut, rfl, rfl⟩
  · rintro ⟨before, after, hcut, rfl, rfl⟩
    cases hfound : cutAlias? cs with
    | none => exact absurd hcut.hasSeparator ((cutAlias?_eq_none_iff cs).mp hfound)
    | some halves =>
        obtain ⟨rfl, htrim⟩ := (isCut_of_cutAlias? hfound).unique hcut
        exact ⟨halves, rfl, by rw [htrim]⟩

/-- In front of the leftmost separator there is no other one. -/
theorem IsCut.not_hasSeparator {cs before after : List Char} (h : IsCut cs before after) :
    ¬ HasSeparator (Text.trimChars before) := by
  rintro ⟨sep, hsep, hinfix⟩
  obtain ⟨front, back, hbefore⟩ := hinfix.trans (isInfix_trimChars before)
  obtain ⟨⟨sep', -, hcs⟩, hleft⟩ := h
  have hle := hleft sep front (back ++ (sep' ++ after)) hsep (by rw [hcs, ← hbefore]; simp)
  obtain ⟨c, rest, hc, -, -⟩ := hsep.afterSeparator? []
  rw [List.append_nil] at hc
  have hlength := congrArg List.length hbefore
  simp only [List.length_append, hc, List.length_cons] at hlength
  omega

end Identifier

/-! ### Readings of a text -/

/-- What stands between the backticks of a quoted name, and the name: a doubled backtick stands for
one. -/
inductive Unquotes : List Char → List Char → Prop
  | nil : Unquotes [] []
  | plain {c : Char} {cs name : List Char} (hc : c ≠ Identifier.backtick) (h : Unquotes cs name) :
      Unquotes (c :: cs) (c :: name)
  | doubled {cs name : List Char} (h : Unquotes cs name) :
      Unquotes (Identifier.backtick :: Identifier.backtick :: cs) (Identifier.backtick :: name)

/-- A text is one token: a bare `*`, or a name in backticks. -/
inductive NamePart.IsRead : List Char → NamePart → Prop
  | star : IsRead ['*'] .star
  | name {cs n : List Char} (h : Unquotes cs n) :
      IsRead (Identifier.backtick :: (cs ++ [Identifier.backtick])) (.name (String.ofList n))

/-- A part of a quoted name, with its alias if it has one. -/
structure QuotedPart where
  name : NamePart
  aliasName : Option NamePart := none
deriving DecidableEq, Repr

/-- A text is one part: a token, or two tokens with ` AS ` between them. -/
inductive QuotedPart.IsRead : List Char → QuotedPart → Prop
  | plain {cs : List Char} {n : NamePart} (h : n.IsRead cs) : IsRead cs { name := n }
  | aliased {cs ds : List Char} {n a : NamePart} (hn : n.IsRead cs) (ha : a.IsRead ds) :
      IsRead (cs ++ (" AS ".toList ++ ds)) { name := n, aliasName := some a }

/-- A whole text is one or more parts with dots between them. -/
inductive QuotedPart.AreRead : List Char → List QuotedPart → Prop
  | one {cs : List Char} {p : QuotedPart} (h : p.IsRead cs) : AreRead cs [p]
  | cons {cs ds : List Char} {p : QuotedPart} {ps : List QuotedPart} (h : p.IsRead cs)
      (hs : AreRead ds ps) : AreRead (cs ++ '.' :: ds) (p :: ps)

theorem unquotes_iff {cs name : List Char} :
    Unquotes cs name ↔ cs = Identifier.doubleBackticks name := by
  constructor
  · intro h
    induction h with
    | nil => rfl
    | plain hc _ ih => rw [ih, Identifier.doubleBackticks_cons_of_ne hc]
    | doubled _ ih => rw [ih, Identifier.doubleBackticks_cons_backtick]
  · rintro rfl
    induction name with
    | nil => exact .nil
    | cons c name ih =>
        by_cases hc : c = Identifier.backtick
        · subst hc
          exact .doubled ih
        · rw [Identifier.doubleBackticks_cons_of_ne hc]
          exact .plain hc ih

/-! ### One reading -/

namespace NamePart

/-- The token that a part of a name is. -/
def token : NamePart → Token
  | name n => .name n
  | star => .char '*'

theorem token_inj {p q : NamePart} (h : p.token = q.token) : p = q := by
  cases p <;> cases q <;> simp_all [token]

/-- A token is followed by no backtick, so it ends where it ends. -/
theorem IsRead.readFrom {cs : List Char} {p : NamePart} (h : p.IsRead cs) {ys : List Char}
    (hys : ys.head? ≠ some Identifier.backtick) :
    Token.readFrom .between (cs ++ ys) = (Token.readFrom .between ys).map (p.token :: ·) := by
  cases h with
  | star => exact Token.readFrom_plain_append (List.forall_mem_singleton.mpr rfl) ys
  | name hname =>
      rename_i inner n
      have hread := Token.readFrom_doubleBackticks n ys []
      rw [← unquotes_iff.mp hname, Token.readFrom_closing hys, List.nil_append] at hread
      rw [List.cons_append, List.append_assoc, List.singleton_append, Token.readFrom, Token.step,
        Token.enter]
      simpa [Identifier.backtick, token] using hread

theorem isRead_quoteName (cs : List Char) : (ofChars cs).IsRead (Identifier.quoteName cs) := by
  unfold ofChars Identifier.quoteName
  split
  · rename_i hstar
    rw [hstar]
    exact .star
  · exact .name (unquotes_iff.mpr rfl)

end NamePart

namespace QuotedPart

/-- The tokens of a part. -/
def tokens : QuotedPart → List Token
  | ⟨n, none⟩ => [n.token]
  | ⟨n, some a⟩ => n.token :: (Token.ofText " AS " ++ [a.token])

/-- The tokens of parts behind the first one, each part with a dot in front. -/
def dotted (ps : List QuotedPart) : List Token := ps.flatMap fun p => .char '.' :: p.tokens

theorem IsRead.readFrom {cs : List Char} {p : QuotedPart} (h : p.IsRead cs) {ys : List Char}
    (hys : ys.head? ≠ some Identifier.backtick) :
    Token.readFrom .between (cs ++ ys) = (Token.readFrom .between ys).map (p.tokens ++ ·) := by
  cases h with
  | plain hn => exact hn.readFrom hys
  | aliased hn ha =>
      have hplain : " AS ".toList.all Token.isPlain := by decide
      rw [List.append_assoc, hn.readFrom (by simp [Identifier.backtick]), List.append_assoc,
        Token.readFrom_plain_append (List.all_eq_true.mp hplain), ha.readFrom hys,
        Option.map_map, Option.map_map]
      rfl

/-- The tokens of a text that is read as parts are those of the parts. -/
theorem AreRead.readFrom {cs : List Char} {ps : List QuotedPart} (h : AreRead cs ps) :
    ∃ p rest, ps = p :: rest ∧ Token.readFrom .between cs = some (p.tokens ++ dotted rest) := by
  induction h with
  | @one cs p hp =>
      have hend : ([] : List Char).head? ≠ some Identifier.backtick := nofun
      have hread := hp.readFrom hend
      rw [List.append_nil] at hread
      exact ⟨p, [], rfl, hread⟩
  | @cons cs ds p ps hp _ ih =>
      obtain ⟨q, rest, rfl, hds⟩ := ih
      refine ⟨p, q :: rest, rfl, ?_⟩
      have hdot : Token.readFrom .between ('.' :: ds) =
          (Token.readFrom .between ds).map (.char '.' :: ·) := rfl
      rw [hp.readFrom (by simp [Identifier.backtick]), hdot, hds]
      rfl

/-- Where the tokens of a part end is seen from the tokens behind it: there are none, or the first
one is a dot. -/
theorem tokens_append_inj {p q : QuotedPart} {ps qs : List QuotedPart}
    (h : p.tokens ++ dotted ps = q.tokens ++ dotted qs) : p = q ∧ dotted ps = dotted qs := by
  obtain ⟨n, aliasName⟩ := p
  obtain ⟨m, aliasName'⟩ := q
  have hdot : ∀ (rs : List QuotedPart) (ts : List Token), dotted rs ≠ .char ' ' :: ts := by
    intro rs ts
    cases rs <;> simp [dotted]
  cases aliasName with
  | none =>
      cases aliasName' with
      | none =>
          obtain ⟨hn, hrest⟩ := List.cons.inj h
          exact ⟨by rw [NamePart.token_inj hn], hrest⟩
      | some a => exact absurd (List.cons.inj h).2 (hdot ps _)
  | some a =>
      cases aliasName' with
      | none => exact absurd (List.cons.inj h).2.symm (hdot qs _)
      | some b =>
          simp only [tokens, List.cons_append, List.append_assoc, List.cons.injEq,
            List.append_cancel_left_eq, List.nil_append] at h
          obtain ⟨hn, ha, hrest⟩ := h
          exact ⟨by rw [NamePart.token_inj hn, NamePart.token_inj ha], hrest⟩

theorem dotted_inj {ps : List QuotedPart} : ∀ {qs : List QuotedPart},
    dotted ps = dotted qs → ps = qs := by
  induction ps with
  | nil =>
      intro qs h
      cases qs with
      | nil => rfl
      | cons q qs => cases h
  | cons p ps ih =>
      intro qs h
      cases qs with
      | nil => cases h
      | cons q qs =>
          obtain ⟨hpq, hrest⟩ := tokens_append_inj (List.cons.inj h).2
          rw [hpq, ih hrest]

/-- No text is read in two ways. -/
theorem AreRead.unique {cs : List Char} {ps qs : List QuotedPart} (hps : AreRead cs ps)
    (hqs : AreRead cs qs) : ps = qs := by
  obtain ⟨p, ps, rfl, hp⟩ := hps.readFrom
  obtain ⟨q, qs, rfl, hq⟩ := hqs.readFrom
  obtain ⟨rfl, hrest⟩ := tokens_append_inj (Option.some.inj (hp.symm.trans hq))
  rw [dotted_inj hrest]

/-! ### The structure of a raw text -/

/-- What a piece of a name means: cut at its leftmost separator if it has one, with a lone `*` for
all columns. -/
inductive IsMeant : List Char → QuotedPart → Prop
  | plain {cs : List Char} (h : ¬ Identifier.HasSeparator cs) :
      IsMeant cs { name := .ofChars cs }
  | aliased {cs before after : List Char} (h : Identifier.IsCut cs before after) :
      IsMeant cs
        { name := .ofChars (Text.trimChars before)
          aliasName := some (.ofChars (Text.trimChars after)) }

theorem IsMeant.unique {cs : List Char} {p q : QuotedPart} (hp : IsMeant cs p)
    (hq : IsMeant cs q) : p = q := by
  cases hp with
  | plain hnone =>
      cases hq with
      | plain _ => rfl
      | aliased hcut => exact absurd hcut.hasSeparator hnone
  | aliased hcut =>
      cases hq with
      | plain hnone => exact absurd hcut.hasSeparator hnone
      | aliased hcut' =>
          obtain ⟨rfl, hafter⟩ := hcut.unique hcut'
          rw [hafter]

/-- A part is quoted as what it means. -/
theorem exists_isRead_quotePart (cs : List Char) :
    ∃ p, p.IsRead (Identifier.quotePart cs) ∧ IsMeant cs p := by
  unfold Identifier.quotePart
  cases hsplit : Identifier.splitChars? cs with
  | none =>
      have hnone : ¬ Identifier.HasSeparator cs :=
        (Identifier.cutAlias?_eq_none_iff cs).mp (Option.map_eq_none_iff.mp hsplit)
      exact ⟨_, .plain (NamePart.isRead_quoteName cs), .plain hnone⟩
  | some halves =>
      obtain ⟨before, after, hcut, hbefore, hafter⟩ :=
        Identifier.splitChars?_eq_some_iff.mp hsplit
      have hname := NamePart.isRead_quoteName halves.1
      have halias := NamePart.isRead_quoteName halves.2
      refine ⟨_, ?_, .aliased hcut⟩
      rw [hbefore, hafter]
      simpa using IsRead.aliased hname halias

theorem exists_areRead_intercalate {pieces : List (List Char)} (hne : pieces ≠ []) :
    ∃ ps, AreRead (['.'].intercalate (pieces.map Identifier.quotePart)) ps ∧
      List.Forall₂ IsMeant pieces ps := by
  induction pieces with
  | nil => exact absurd rfl hne
  | cons cs pieces ih =>
      obtain ⟨p, hread, hmeant⟩ := exists_isRead_quotePart cs
      cases pieces with
      | nil => exact ⟨[p], by simpa using .one hread, .cons hmeant .nil⟩
      | cons ds pieces =>
          obtain ⟨ps, hreads, hmeants⟩ := ih (List.cons_ne_nil _ _)
          refine ⟨p :: ps, ?_, .cons hmeant hmeants⟩
          rw [List.map_cons, List.map_cons, List.intercalate_cons_cons, List.append_assoc]
          exact .cons hread hreads

end QuotedPart

namespace Identifier

/-- The parts of a name: the pieces of the raw text between its dots, without blanks at their ends
if there is a dot, each with what it means. -/
def HasParts (id : Identifier) (ps : List QuotedPart) : Prop :=
  List.Forall₂ QuotedPart.IsMeant
    (if '.' ∈ id.raw.toList then (id.raw.toList.splitOn '.').map Text.trimChars
      else [id.raw.toList]) ps

/-- On each side of a dot there is a piece. -/
theorem two_le_length_splitOn {cs : List Char} (hdot : '.' ∈ cs) :
    2 ≤ (cs.splitOn '.').length := by
  obtain ⟨front, back, rfl⟩ := List.append_of_mem hdot
  have hfront := List.length_pos_iff.mpr (List.splitOn_ne_nil '.' front)
  have hback := List.length_pos_iff.mpr (List.splitOn_ne_nil '.' back)
  rw [List.splitOn_append_cons_self, List.length_append]
  omega

theorem parts_eq (id : Identifier) :
    id.parts =
      if '.' ∈ id.raw.toList then (id.raw.toList.splitOn '.').map Text.trimChars
      else [id.raw.toList] := by
  unfold parts pieces
  split_ifs with hdot
  · have hlength := two_le_length_splitOn hdot
    split
    · rename_i piece hpiece
      rw [hpiece] at hlength
      exact absurd hlength (by simp)
    · rfl
  · rw [List.splitOn_eq_singleton hdot]

theorem quoteChars_eq_intercalate (id : Identifier) :
    quoteChars id.raw.toList = ['.'].intercalate (id.parts.map quotePart) := by
  unfold quoteChars parts
  rcases pieces id.raw.toList with _ | ⟨piece, _ | ⟨second, others⟩⟩
  · rfl
  · exact List.intercalate_singleton.symm
  · rw [List.map_map]
    rfl

theorem toList_quoted (id : Identifier) :
    id.quoted.toList = ['.'].intercalate (id.parts.map quotePart) := by
  rw [quoted, String.toList_ofList, quoteChars_eq_intercalate]

/-- **A quoted name is read in one way only, as the structure of its raw text**: the pieces between
its dots, each cut at its leftmost alias separator, where the first half of a cut has no separator
in it. -/
theorem existsUnique_areRead_quoted (id : Identifier) :
    (∃! ps, QuotedPart.AreRead id.quoted.toList ps) ∧
      (∀ ps, QuotedPart.AreRead id.quoted.toList ps ↔ id.HasParts ps) ∧
      ∀ cs name aliasName, splitChars? cs = some (name, aliasName) → ¬ HasSeparator name := by
  obtain ⟨ps, hread, hmeant⟩ := QuotedPart.exists_areRead_intercalate id.parts_ne_nil
  rw [← toList_quoted] at hread
  refine ⟨⟨ps, hread, fun qs hqs => hqs.unique hread⟩, fun qs => ?_, ?_⟩
  · unfold HasParts
    rw [← parts_eq]
    constructor
    · intro hqs
      rwa [hqs.unique hread]
    · intro hqs
      have hunique : Relator.RightUnique QuotedPart.IsMeant := fun _ _ _ hp hq => hp.unique hq
      rwa [List.right_unique_forall₂' hunique hqs hmeant]
  · intro cs name aliasName hsplit
    obtain ⟨before, after, hcut, rfl, -⟩ := splitChars?_eq_some_iff.mp hsplit
    exact hcut.not_hasSeparator

example : (⟨"a`b . * as x.y"⟩ : Identifier).quoted = "`a``b`.* AS `x`.`y`" := by decide

end Identifier

end FluentSql
