import FluentSql.Proofs.NameList

/-! # Names where a backslash escapes

A server may read a name in backticks with two rules at once: a doubled backtick is one backtick,
and a backslash takes the next character out of its role (`readName?`).  Quoting heeds the first
rule only, so a backslash in a name meets a reader that takes the character behind it, and behind
the last character of a name that is the closing backtick.  A name ends where its quotes end
exactly if each of its backslashes, from the left, has a character of the name to take that is no
backtick (`IsReadAs`), and it is read as itself exactly if it has no backslash
(`Identifier.readName?_quoted_iff`). -/

namespace FluentSql

/-- The rest of a name in backticks and what stands behind it, for a reader that takes a doubled
backtick for one and a character behind a backslash for what `unescape` makes of it. -/
def readInside? (unescape : Char → Char) : List Char → Option (List Char × List Char)
  | [] => none
  | [c] => if c = Identifier.backtick then some ([], []) else none
  | c :: d :: cs =>
      if c = '\\' then (readInside? unescape cs).map (Prod.map (unescape d :: ·) id)
      else if c ≠ Identifier.backtick then
        (readInside? unescape (d :: cs)).map (Prod.map (c :: ·) id)
      else if d = Identifier.backtick then
        (readInside? unescape cs).map (Prod.map (Identifier.backtick :: ·) id)
      else some ([], d :: cs)

/-- A name in backticks at the front of a text, and what stands behind it. -/
def readName? (unescape : Char → Char) : List Char → Option (List Char × List Char)
  | [] => none
  | c :: cs => if c = Identifier.backtick then readInside? unescape cs else none

/-- What a name is read as between backticks: a backslash has a character behind it, which is no
backtick, and stands with it for one character. -/
inductive IsReadAs (unescape : Char → Char) : List Char → List Char → Prop
  | nil : IsReadAs unescape [] []
  | plain {c : Char} {cs name : List Char} (hc : c ≠ '\\') (h : IsReadAs unescape cs name) :
      IsReadAs unescape (c :: cs) (c :: name)
  | escaped {c : Char} {cs name : List Char} (hc : c ≠ Identifier.backtick)
      (h : IsReadAs unescape cs name) : IsReadAs unescape ('\\' :: c :: cs) (unescape c :: name)

variable {unescape : Char → Char} {c : Char} {cs name t : List Char}

/-! ### Steps of the reader -/

open Identifier (backtick doubleBackticks doubleBackticks_nil doubleBackticks_cons_of_ne
  doubleBackticks_cons_backtick)

theorem readInside?_escaped (c : Char) (cs : List Char) : readInside? unescape ('\\' :: c :: cs) =
    (readInside? unescape cs).map (Prod.map (unescape c :: ·) id) := by
  rw [readInside?, if_pos rfl]

theorem readInside?_plain (hc : c ≠ '\\') (hc' : c ≠ backtick) (cs : List Char) :
    readInside? unescape (c :: cs) =
      (readInside? unescape cs).map (Prod.map (c :: ·) id) := by
  cases cs with
  | nil => simp [readInside?, hc']
  | cons d cs => rw [readInside?, if_neg hc, if_pos hc']

theorem readInside?_doubled (cs : List Char) :
    readInside? unescape (backtick :: backtick :: cs) =
      (readInside? unescape cs).map (Prod.map (backtick :: ·) id) := by
  rw [readInside?, if_neg (by decide), if_neg (by simp), if_pos rfl]

/-- A backtick without another one behind it ends the name. -/
theorem readInside?_closing (ht : t.head? ≠ some backtick) :
    readInside? unescape (backtick :: t) = some ([], t) := by
  cases t with
  | nil => rfl
  | cons d t =>
      have hd : d ≠ backtick := fun h => ht (by rw [h]; rfl)
      rw [readInside?, if_neg (by decide), if_neg (by simp), if_neg hd]

theorem map_name_eq_some_iff {r : Option (List Char × List Char)} {c : Char}
    {name rest : List Char} : r.map (Prod.map (c :: ·) id) = some (name, rest) ↔
      ∃ n, r = some (n, rest) ∧ name = c :: n := by
  rw [Option.map_eq_some_iff]
  constructor
  · rintro ⟨⟨n, rest'⟩, hr, h⟩
    obtain ⟨rfl, rfl⟩ := Prod.mk.inj h
    exact ⟨n, hr, rfl⟩
  · rintro ⟨n, hr, rfl⟩
    exact ⟨(n, rest), hr, rfl⟩

/-- A name takes at least its closing backtick. -/
theorem length_lt_of_readInside? (cs : List Char) : ∀ {name rest : List Char},
    readInside? unescape cs = some (name, rest) → rest.length < cs.length := by
  fun_induction readInside? unescape cs with
  | case1 => exact fun h => nomatch h
  | case2 =>
      rintro name rest ⟨⟩
      exact Nat.one_pos
  | case3 => exact fun h => nomatch h
  | case4 d cs ih =>
      intro name rest h
      obtain ⟨n, hn, -⟩ := map_name_eq_some_iff.mp h
      have := ih hn
      simp only [List.length_cons]
      omega
  | case5 c d cs hc hc' ih =>
      intro name rest h
      obtain ⟨n, hn, -⟩ := map_name_eq_some_iff.mp h
      have := ih hn
      simp only [List.length_cons] at this ⊢
      omega
  | case6 c cs hc hc' ih =>
      intro name rest h
      obtain ⟨n, hn, -⟩ := map_name_eq_some_iff.mp h
      have := ih hn
      simp only [List.length_cons]
      omega
  | case7 c d cs hc hc' hd =>
      rintro name rest ⟨⟩
      exact Nat.lt_succ_self _

/-! ### Quoted names -/

/-- Behind an odd backtick a reader does not end at the closing backtick: it ends in front of it,
or it takes both for one. -/
theorem readInside?_odd (cs : List Char) : ∀ name,
    readInside? unescape (backtick :: (doubleBackticks cs ++ backtick :: t)) ≠ some (name, t) := by
  induction cs with
  | nil =>
      intro name h
      rw [doubleBackticks_nil, List.nil_append, readInside?_doubled] at h
      obtain ⟨n, hn, -⟩ := map_name_eq_some_iff.mp h
      exact absurd (length_lt_of_readInside? t hn) (Nat.lt_irrefl _)
  | cons c cs ih =>
      intro name h
      by_cases hc : c = backtick
      · rw [hc, doubleBackticks_cons_backtick, List.cons_append, List.cons_append,
          readInside?_doubled] at h
        obtain ⟨n, hn, -⟩ := map_name_eq_some_iff.mp h
        exact ih n hn
      · have hhead : (c :: (doubleBackticks cs ++ backtick :: t)).head? ≠ some backtick := by
          simpa using hc
        rw [doubleBackticks_cons_of_ne hc, List.cons_append, readInside?_closing hhead] at h
        obtain ⟨-, hrest⟩ := Prod.mk.inj (Option.some.inj h)
        have hlength := congrArg List.length hrest
        simp only [List.length_cons, List.length_append] at hlength
        omega

/-- A character that is no backslash is read as itself, whether it is written once or twice. -/
theorem readInside?_doubleBackticks_cons (hc : c ≠ '\\') (cs t : List Char) :
    readInside? unescape (doubleBackticks (c :: cs) ++ t) =
      (readInside? unescape (doubleBackticks cs ++ t)).map (Prod.map (c :: ·) id) := by
  by_cases hquote : c = backtick
  · rw [hquote, doubleBackticks_cons_backtick]
    exact readInside?_doubled _
  · rw [doubleBackticks_cons_of_ne hquote]
    exact readInside?_plain hc hquote _

theorem isReadAs_cons_iff (hc : c ≠ '\\') :
    IsReadAs unescape (c :: cs) name ↔ ∃ n, IsReadAs unescape cs n ∧ name = c :: n := by
  constructor
  · intro h
    cases h with
    | plain _ h => exact ⟨_, h, rfl⟩
    | escaped => exact absurd rfl hc
  · rintro ⟨n, h, rfl⟩
    exact .plain hc h

theorem isReadAs_escaped_iff : IsReadAs unescape ('\\' :: c :: cs) name ↔
    c ≠ backtick ∧ ∃ n, IsReadAs unescape cs n ∧ name = unescape c :: n := by
  constructor
  · intro h
    cases h with
    | plain hc => exact absurd rfl hc
    | escaped hc h => exact ⟨hc, _, h, rfl⟩
  · rintro ⟨hc, n, h, rfl⟩
    exact .escaped hc h

/-- A name ends where its quotes end exactly if its backslashes leave the backticks alone. -/
theorem readInside?_doubleBackticks_iff (ht : t.head? ≠ some backtick) (cs name : List Char) :
    readInside? unescape (doubleBackticks cs ++ backtick :: t) = some (name, t) ↔
      IsReadAs unescape cs name := by
  match cs with
  | [] =>
      rw [doubleBackticks_nil, List.nil_append, readInside?_closing ht]
      constructor
      · rintro ⟨⟩
        exact .nil
      · rintro ⟨⟩
        rfl
  | c :: cs =>
      by_cases hc : c = '\\'
      · subst hc
        rw [doubleBackticks_cons_of_ne (by decide), List.cons_append]
        match cs with
        | [] =>
            -- the closing backtick is taken, and the reader goes on behind the name
            rw [doubleBackticks_nil, List.nil_append, readInside?_escaped,
              map_name_eq_some_iff]
            constructor
            · rintro ⟨n, hn, -⟩
              exact absurd (length_lt_of_readInside? t hn) (Nat.lt_irrefl _)
            · rintro (_ | ⟨hc, _⟩)
              exact absurd rfl hc
        | d :: cs =>
            rw [isReadAs_escaped_iff]
            by_cases hd : d = backtick
            · -- one half of a doubled backtick is taken
              rw [hd, doubleBackticks_cons_backtick, List.cons_append, readInside?_escaped,
                map_name_eq_some_iff, List.cons_append]
              constructor
              · rintro ⟨n, hn, -⟩
                exact absurd hn (readInside?_odd cs n)
              · rintro ⟨hne, -⟩
                exact absurd rfl hne
            · rw [doubleBackticks_cons_of_ne hd, List.cons_append, readInside?_escaped,
                map_name_eq_some_iff, and_iff_right hd]
              refine exists_congr fun n => and_congr_left fun _ => ?_
              exact readInside?_doubleBackticks_iff ht cs n
      · rw [readInside?_doubleBackticks_cons hc, map_name_eq_some_iff, isReadAs_cons_iff hc]
        refine exists_congr fun n => and_congr_left fun _ => ?_
        exact readInside?_doubleBackticks_iff ht cs n
termination_by cs.length

/-! ### Names without backslash -/

theorem isReadAs_self (h : '\\' ∉ cs) : IsReadAs unescape cs cs := by
  induction cs with
  | nil => exact .nil
  | cons c cs ih =>
      rw [List.mem_cons, not_or] at h
      exact .plain (Ne.symm h.1) (ih h.2)

theorem IsReadAs.length_le (h : IsReadAs unescape cs name) : name.length ≤ cs.length := by
  induction h with
  | nil => exact Nat.le_refl 0
  | plain _ _ ih =>
      simp only [List.length_cons]
      omega
  | escaped _ _ ih =>
      simp only [List.length_cons]
      omega

/-- A backslash stands for nothing itself. -/
theorem IsReadAs.length_lt (h : IsReadAs unescape cs name) (hmem : '\\' ∈ cs) :
    name.length < cs.length := by
  induction h with
  | nil => cases hmem
  | plain hc _ ih =>
      rcases List.mem_cons.mp hmem with heq | hmem
      · exact absurd heq.symm hc
      · have := ih hmem
        simp only [List.length_cons]
        omega
  | escaped _ h _ =>
      have := h.length_le
      simp only [List.length_cons]
      omega

theorem isReadAs_self_iff : IsReadAs unescape cs cs ↔ '\\' ∉ cs := by
  refine ⟨fun h hmem => ?_, isReadAs_self⟩
  exact absurd (h.length_lt hmem) (Nat.lt_irrefl _)

/-- What has no backslash is read as it is, whatever follows. -/
theorem readInside?_doubleBackticks_append (h : '\\' ∉ cs) (t : List Char) :
    readInside? unescape (doubleBackticks cs ++ t) =
      (readInside? unescape t).map (Prod.map (cs ++ ·) id) := by
  induction cs with
  | nil =>
      rw [doubleBackticks_nil, List.nil_append]
      cases readInside? unescape t <;> rfl
  | cons c cs ih =>
      rw [List.mem_cons, not_or] at h
      rw [readInside?_doubleBackticks_cons (Ne.symm h.1), ih h.2, Option.map_map]
      rfl

namespace Identifier

/-- **A quoted name is read as itself exactly if it has no backslash.**  A reader with both rules,
whatever a character stands for behind a backslash, ends one name in backticks where its quotes end
exactly if each backslash, from the left, has a character of the name behind it that is no
backtick, and takes both for one character.  If the only backslash is the last character of the
name, the reader takes the closing backtick into the name and goes on in what follows. -/
theorem readName?_quoted_iff (unescape : Char → Char) {name : Identifier} (hname : name.IsOneName)
    {t : List Char} (ht : t.head? ≠ some backtick) :
    (∀ n, readName? unescape (name.quoted.toList ++ t) = some (n, t) ↔
      IsReadAs unescape name.raw.toList n) ∧
    (readName? unescape (name.quoted.toList ++ t) = some (name.raw.toList, t) ↔
      '\\' ∉ name.raw.toList) ∧
    ∀ front, name.raw.toList = front ++ ['\\'] → '\\' ∉ front →
      readName? unescape (name.quoted.toList ++ t) =
        (readInside? unescape t).map (Prod.map (front ++ unescape backtick :: ·) id) := by
  have hne : name.raw.toList ≠ ['*'] := by
    intro hstar
    exact hname.ne_star (String.toList_inj.mp hstar)
  have htext : readName? unescape (name.quoted.toList ++ t) =
      readInside? unescape (doubleBackticks name.raw.toList ++ backtick :: t) := by
    rw [hname.toList_quoted, quoteName, if_neg hne, List.cons_append, List.append_assoc, readName?,
      if_pos rfl]
    rfl
  rw [htext]
  refine ⟨readInside?_doubleBackticks_iff ht _, ?_, fun front hraw hfront => ?_⟩
  · rw [readInside?_doubleBackticks_iff ht, isReadAs_self_iff]
  · have hsplit : doubleBackticks (front ++ ['\\']) = doubleBackticks front ++ ['\\'] :=
      List.flatMap_append
    rw [hraw, hsplit, List.append_assoc, readInside?_doubleBackticks_append hfront,
      List.singleton_append, readInside?_escaped, Option.map_map]
    rfl

/-- A backtick is read as itself; two backslashes are read as one; behind a backslash at the end
the closing backtick and the comma belong to the name. -/
theorem readName?_quoted_iff_ends :
    let follows := ", `b`".toList
    IsOneName ⟨"a`b"⟩ ∧ IsOneName ⟨"a\\\\`b"⟩ ∧ IsOneName ⟨"a\\"⟩ ∧ follows.head? ≠ some backtick ∧
      readName? (fun c => c) ((⟨"a`b"⟩ : Identifier).quoted.toList ++ follows) =
        some ("a`b".toList, follows) ∧
      readName? (fun c => c) ((⟨"a\\\\`b"⟩ : Identifier).quoted.toList ++ follows) =
        some ("a\\`b".toList, follows) ∧
      readName? (fun c => c) ((⟨"a\\"⟩ : Identifier).quoted.toList ++ follows) =
        some ("a`, ".toList, "b`".toList) := by
  intro follows
  have hone (raw : String) (hdot : '.' ∉ raw.toList) (hcut : cutAlias? raw.toList = none)
      (hstar : raw ≠ "*") : IsOneName ⟨raw⟩ := ⟨hdot, (cutAlias?_eq_none_iff _).mp hcut, hstar⟩
  have hplain := hone "a`b" (by decide) (by decide) (by decide)
  have htwo := hone "a\\\\`b" (by decide) (by decide) (by decide)
  have hlast := hone "a\\" (by decide) (by decide) (by decide)
  have hfollows : follows.head? ≠ some backtick := by decide
  refine ⟨hplain, htwo, hlast, hfollows, ?_, ?_, ?_⟩
  · exact (readName?_quoted_iff _ hplain hfollows).2.1.mpr (by decide)
  · refine ((readName?_quoted_iff _ htwo hfollows).1 _).mpr ?_
    exact .plain (by decide) (.escaped (by decide) (.plain (by decide) (.plain (by decide) .nil)))
  · rw [(readName?_quoted_iff _ hlast hfollows).2.2 ['a'] rfl (by decide)]
    decide

/-- A name that ends in a backslash is not read as itself: the reader takes the comma behind it and
the opening backtick of the next name for the end of this one. -/
theorem not_readName?_quoted_backslash :
    let name : Identifier := ⟨"a\\"⟩
    let follows := ", `b`".toList
    name.IsOneName ∧ follows.head? ≠ some backtick ∧ name.quoted = "`a\\`" ∧
      ¬ readName? (fun c => c) (name.quoted.toList ++ follows) =
        some (name.raw.toList, follows) := by
  intro name follows
  have hone : name.IsOneName := ⟨by decide, (cutAlias?_eq_none_iff _).mp (by decide), by decide⟩
  exact ⟨hone, by decide, by decide, by decide⟩

end Identifier

end FluentSql
