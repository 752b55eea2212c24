import Mathlib.Data.List.Basic
import Mathlib.Data.List.TakeWhile
import SyntaxGraft.Proofs.Selector.Spelling
/-!
# What the reader gives is spelled

Every reader of selectors takes a text that spells what it gives: `listWithin_sound` for lists, with
one lemma for each reader on the way.  The readers of one level are treated for any reader of nested
lists that is sound itself (`ListReader.Sound`), and the depth is the induction at the end.

A proof goes along the steps of its reader: `bind_eq_ok` takes them apart, and the text is put
together again from what each step has taken.
-/

namespace SyntaxGraft.SelectorReader

open SelectorGrammar

/-! ### Runs -/

/-- Two steps in a row succeed if the first does and the second does with its value. -/
theorem bind_eq_ok {ε α β : Type} {x : Except ε α} {f : α → Except ε β} {result : β} :
    (x >>= f) = .ok result ↔ ∃ value, x = .ok value ∧ f value = .ok result := by
  cases x with
  | error fault =>
    constructor
    · intro h
      cases h
    · rintro ⟨_, h, _⟩
      cases h
  | ok value =>
    constructor
    · intro h
      exact ⟨value, rfl, h⟩
    · rintro ⟨_, h, hresult⟩
      cases h
      exact hresult

/-- The blanks that open a text, and what is left after them (`Text.skipBlank`). -/
theorem exists_blanks (t : Text) : ∃ blanks, IsBlanks blanks ∧ t = blanks ++ Text.skipBlank t :=
  ⟨t.takeWhile isBlank, fun _ => List.mem_takeWhile_imp, List.takeWhile_append_dropWhile.symm⟩

theorem head?_skipBlank (t : Text) : ∀ c ∈ (Text.skipBlank t).head?, isBlank c = false := by
  intro c hc
  have hhead := List.head?_dropWhile_not isBlank t
  rw [Text.skipBlank, Option.mem_def] at hc
  rw [hc] at hhead
  exact hhead

theorem name_spec {t word rest : Text} (h : name t = (word, rest)) :
    t = word ++ rest ∧ ∀ c ∈ word, isNameChar c = true := by
  obtain ⟨rfl, rfl⟩ := Prod.mk.inj h
  exact ⟨List.takeWhile_append_dropWhile.symm, fun _ => List.mem_takeWhile_imp⟩

theorem someName_sound {what : Expectation} {t word rest : Text}
    (h : someName what t = .ok (word, rest)) : IsName word ∧ t = word ++ rest := by
  unfold someName at h
  split at h
  · cases h
  · next hne hname =>
    obtain ⟨rfl, rfl⟩ := Prod.mk.inj (Except.ok.inj h)
    obtain ⟨ht, hword⟩ := name_spec hname
    exact ⟨⟨hne, hword⟩, ht⟩

theorem char_eq_ok {c : Char} {what : Expectation} {t rest : Text} :
    char c what t = .ok rest ↔ t = c :: rest := by
  cases t with
  | nil => simp [char]
  | cons d t =>
    by_cases h : d = c <;> simp [char, h]

/-! ### Paths and values -/

/-- The reader of paths carries the name begun, in reverse: `word` is what has been read of it. -/
theorem fieldPath_sound {word t rest : Text} {names : List String}
    (hword : ∀ c ∈ word, isNameChar c = true) (h : fieldPath word t = .ok (names, rest)) :
    ∃ taken, t = taken ++ rest ∧ SpellsPath (word.reverse ++ taken) names := by
  have hname : ∀ {word : Text}, (∀ c ∈ word, isNameChar c = true) → ¬ word.isEmpty = true →
      IsName word.reverse := by
    intro word hword hne
    refine ⟨?_, fun c hc => hword c (List.mem_reverse.mp hc)⟩
    simpa using hne
  induction t generalizing word names with
  | nil =>
    rw [fieldPath] at h
    by_cases hempty : word.isEmpty = true
    · rw [if_pos hempty] at h
      cases h
    · rw [if_neg hempty] at h
      cases h
      exact ⟨[], rfl, by rw [List.append_nil]; exact .one (hname hword hempty)⟩
  | cons c t ih =>
    rw [fieldPath] at h
    by_cases hc : isNameChar c = true
    · rw [if_pos hc] at h
      obtain ⟨taken, rfl, hpath⟩ := ih (List.forall_mem_cons.mpr ⟨hc, hword⟩) h
      refine ⟨c :: taken, rfl, ?_⟩
      rwa [List.reverse_cons, List.append_assoc] at hpath
    · rw [if_neg hc] at h
      by_cases hempty : word.isEmpty = true
      · rw [if_pos hempty] at h
        cases h
      · rw [if_neg hempty] at h
        by_cases hdot : c = '.'
        · rw [if_pos hdot, bind_eq_ok] at h
          obtain ⟨⟨names', rest'⟩, hrest, heq⟩ := h
          cases heq
          obtain ⟨taken, rfl, hpath⟩ := ih (List.forall_mem_nil _) hrest
          exact ⟨c :: taken, rfl, hdot ▸ .more (hname hword hempty) hpath⟩
        · rw [if_neg hdot] at h
          cases h
          exact ⟨[], rfl, by rw [List.append_nil]; exact .one (hname hword hempty)⟩

/-- A backslash with something behind it is read as an escape, so what is read otherwise is none. -/
theorem ne_backslash {c : Char} {t : Text}
    (hescape : ∀ d rest, c = '\\' → t = d :: rest → False) (ht : t ≠ []) : c ≠ '\\' := by
  intro hc
  obtain ⟨d, rest, hrest⟩ := List.exists_cons_of_ne_nil ht
  exact hescape d rest hc hrest

theorem quotedValue_sound {quote : Char} {t value rest : Text}
    (h : quotedValue quote t = .ok (value, rest)) :
    ∃ taken, t = taken ++ quote :: rest ∧ SpellsQuoted quote taken value := by
  fun_induction quotedValue quote t generalizing value rest with
  | case1 => cases h
  | case2 => cases h
  | case3 c t ih =>
    rw [bind_eq_ok] at h
    obtain ⟨⟨value', rest'⟩, hrest, heq⟩ := h
    cases heq
    obtain ⟨taken, rfl, hspells⟩ := ih hrest
    refine ⟨'\\' :: c :: taken, rfl, ?_⟩
    -- The reader asks what the character means; the grammar has a rule for each answer.
    by_cases hn : c = 'n'
    · subst hn
      exact .lineEnd hspells
    · by_cases ht : c = 't'
      · subst ht
        exact .tab hspells
      · rw [if_neg hn, if_neg ht]
        exact .escaped hn ht hspells
  | case4 t _ _ =>
    cases h
    exact ⟨[], rfl, .nil⟩
  | case5 c t hend hescape hquote ih =>
    rw [bind_eq_ok] at h
    obtain ⟨⟨value', rest'⟩, hrest, heq⟩ := h
    cases heq
    obtain ⟨taken, rfl, hspells⟩ := ih hrest
    -- The value ends with a quote, so a backslash would have had a character to take with it.
    have hslash : c ≠ '\\' := ne_backslash hescape (by simp)
    exact ⟨c :: taken, rfl, .plain hquote hslash hspells⟩

/-- The blanks at the end of a text, and what is left before them (`Text.trimEnd`). -/
theorem exists_trimEnd (t : Text) : ∃ blanks, IsBlanks blanks ∧ t = Text.trimEnd t ++ blanks ∧
    ∀ c ∈ (Text.trimEnd t).getLast?, isBlank c = false := by
  refine ⟨(t.reverse.takeWhile isBlank).reverse, ?_, ?_, ?_⟩
  · intro c hc
    exact List.mem_takeWhile_imp (List.mem_reverse.mp hc)
  · rw [Text.trimEnd, ← List.reverse_append, List.takeWhile_append_dropWhile, List.reverse_reverse]
  · rw [Text.trimEnd, List.getLast?_reverse]
    exact head?_skipBlank t.reverse

/-- The reader stops at `]` and trims, so blanks may be left between the value and the rest. -/
theorem bareValue_sound {t value rest : Text}
    (hhead : ∀ c ∈ t.head?, isBlank c = false ∧ c ≠ '/' ∧ c ≠ '"' ∧ c ≠ '\'')
    (h : bareValue t = .ok (value, rest)) :
    ∃ blanks, t = value ++ (blanks ++ rest) ∧ IsBlanks blanks ∧ IsBareValue value := by
  unfold bareValue at h
  split at h
  · cases h
  · next hne =>
    cases h
    obtain ⟨blanks, hblanks, htaken, hlast⟩ := exists_trimEnd (t.takeWhile (· ≠ ']'))
    have ht : t = Text.trimEnd (t.takeWhile (· ≠ ']')) ++ (blanks ++ t.dropWhile (· ≠ ']')) := by
      rw [← List.append_assoc, ← htaken, List.takeWhile_append_dropWhile]
    refine ⟨blanks, ht, hblanks, hne, ?_, ?_, hlast⟩
    · intro c hc
      have hmem : c ∈ t.takeWhile (· ≠ ']') := by
        rw [htaken]
        exact List.mem_append_left _ hc
      simpa using List.mem_takeWhile_imp hmem
    · intro c hc
      apply hhead
      rw [ht]
      exact List.mem_head?_append_of_mem_head? hc

theorem followsOperator_of_ne_cons {op : CompareOp} {rest : Text}
    (h : ∀ tail, rest = '=' :: tail → False) : FollowsOperator op rest := by
  rintro _ c hc rfl
  obtain ⟨tail, htail⟩ := List.head?_eq_some_iff.mp hc
  exact h tail htail

/-- The operators of two characters are tried first, so what follows on `<` or `>` is not `=`. -/
theorem operator_sound {t rest : Text} {op : CompareOp} (h : operator t = .ok (op, rest)) :
    t = op.symbol.toList ++ rest ∧ FollowsOperator op rest := by
  unfold operator at h
  split at h
  · cases h
    exact ⟨rfl, by simp [FollowsOperator]⟩
  · cases h
    exact ⟨rfl, by simp [FollowsOperator]⟩
  · cases h
    exact ⟨rfl, by simp [FollowsOperator]⟩
  · cases h
    exact ⟨rfl, by simp [FollowsOperator]⟩
  · -- `<`, where `<=` has not been read
    next rest' hlonger =>
    cases h
    exact ⟨rfl, followsOperator_of_ne_cons hlonger⟩
  · -- `>`, where `>=` has not been read
    next rest' hlonger =>
    cases h
    exact ⟨rfl, followsOperator_of_ne_cons hlonger⟩
  · cases h

theorem splitBody?_sound {t body rest : Text} (h : Regex.splitBody? t = some (body, rest)) :
    t = body ++ '/' :: rest ∧ IsRegexBody body := by
  fun_induction Regex.splitBody? t generalizing body rest with
  | case1 => cases h
  | case2 t =>
    cases h
    exact ⟨rfl, .nil⟩
  | case3 c t ih =>
    obtain ⟨⟨body', rest'⟩, hrest, heq⟩ := Option.map_eq_some_iff.mp h
    cases heq
    obtain ⟨rfl, hbody⟩ := ih hrest
    exact ⟨rfl, .escaped hbody⟩
  | case4 c t hslash hescape ih =>
    obtain ⟨⟨body', rest'⟩, hrest, heq⟩ := Option.map_eq_some_iff.mp h
    cases heq
    obtain ⟨rfl, hbody⟩ := ih hrest
    -- There is a slash further on, so a backslash would have escaped something.
    have hback : c ≠ '\\' := ne_backslash hescape (by simp)
    exact ⟨rfl, .plain hslash hback hbody⟩

theorem regexTest_sound {op : CompareOp} {t rest : Text} {test : AttributeTest}
    (h : regexTest op t = .ok (test, rest)) :
    ∃ taken, t = taken ++ rest ∧ SpellsValue op ('/' :: taken) test := by
  unfold regexTest at h
  rw [bind_eq_ok] at h
  obtain ⟨negated, hnegated, h⟩ := h
  -- Only `=` and `!=` go with a regex.
  have hop : op = if negated then .ne else .eq := by
    cases op <;> cases hnegated <;> rfl
  split at h
  · cases h
  · next body after hsplit =>
    obtain ⟨rfl, hbody⟩ := splitBody?_sound hsplit
    dsimp only at h
    split at h
    · cases h
    · next pattern hpattern =>
      cases h
      refine ⟨body ++ '/' :: after.takeWhile Char.isAlpha, ?_, ?_⟩
      · rw [List.append_assoc, List.cons_append, List.takeWhile_append_dropWhile]
      · rw [hop]
        exact .regex hbody (fun _ => List.mem_takeWhile_imp) hpattern negated

theorem valueTest_sound {op : CompareOp} {t rest : Text} {test : AttributeTest}
    (hhead : ∀ c ∈ t.head?, isBlank c = false) (h : valueTest op t = .ok (test, rest)) :
    ∃ value blanks, t = value ++ (blanks ++ rest) ∧ IsBlanks blanks ∧
      SpellsValue op value test := by
  unfold valueTest at h
  split at h
  · obtain ⟨taken, rfl, hvalue⟩ := regexTest_sound h
    exact ⟨'/' :: taken, [], rfl, isBlanks_nil, hvalue⟩
  · rw [bind_eq_ok] at h
    obtain ⟨⟨value, rest'⟩, hvalue, heq⟩ := h
    cases heq
    obtain ⟨taken, rfl, hquoted⟩ := quotedValue_sound hvalue
    exact ⟨'"' :: (taken ++ ['"']), [], by simp, isBlanks_nil, .quoted (.inl rfl) hquoted op⟩
  · rw [bind_eq_ok] at h
    obtain ⟨⟨value, rest'⟩, hvalue, heq⟩ := h
    cases heq
    obtain ⟨taken, rfl, hquoted⟩ := quotedValue_sound hvalue
    exact ⟨'\'' :: (taken ++ ['\'']), [], by simp, isBlanks_nil, .quoted (.inr rfl) hquoted op⟩
  · -- A bare value: the branches before tell what it does not begin with.
    next hslash hdouble hsingle =>
    rw [bind_eq_ok] at h
    obtain ⟨⟨value, rest'⟩, hvalue, heq⟩ := h
    cases heq
    have hstart : ∀ c ∈ t.head?, isBlank c = false ∧ c ≠ '/' ∧ c ≠ '"' ∧ c ≠ '\'' := by
      intro c hc
      obtain ⟨tail, rfl⟩ := List.head?_eq_some_iff.mp hc
      refine ⟨hhead c hc, ?_, ?_, ?_⟩
      · rintro rfl
        exact hslash tail rfl
      · rintro rfl
        exact hdouble tail rfl
      · rintro rfl
        exact hsingle tail rfl
    obtain ⟨blanks, ht, hblanks, hbare⟩ := bareValue_sound hstart hvalue
    exact ⟨value, blanks, ht, hblanks, .bare hbare op⟩

theorem bracketed_sound {t rest : Text} {read : Attribute} (h : bracketed t = .ok (read, rest)) :
    ∃ inside, t = inside ++ ']' :: rest ∧ SpellsAttribute inside read := by
  unfold bracketed at h
  rw [bind_eq_ok] at h
  obtain ⟨⟨path, afterPath⟩, hpath, h⟩ := h
  obtain ⟨before, hbefore, ht⟩ := exists_blanks t
  obtain ⟨text, htext, hpath⟩ := fieldPath_sound (List.forall_mem_nil _) hpath
  obtain ⟨middle, hmiddle, hafterPath⟩ := exists_blanks afterPath
  rw [List.reverse_nil, List.nil_append] at hpath
  dsimp only at h
  split at h
  · next rest' hclose =>
    cases h
    refine ⟨before ++ (text ++ middle), ?_, .present hbefore hpath hmiddle⟩
    rw [ht, htext, hafterPath, hclose]
    simp
  · rw [bind_eq_ok] at h
    obtain ⟨⟨op, afterOp⟩, hop, h⟩ := h
    dsimp only at h
    rw [bind_eq_ok] at h
    obtain ⟨⟨test, afterValue⟩, hvalue, h⟩ := h
    dsimp only at h
    rw [bind_eq_ok] at h
    obtain ⟨rest', hclose, heq⟩ := h
    cases heq
    obtain ⟨hop, hfollows⟩ := operator_sound hop
    obtain ⟨gap, hgap, hafterOp⟩ := exists_blanks afterOp
    obtain ⟨value, blanks, htaken, hblanks, hvalue⟩ :=
      valueTest_sound (head?_skipBlank afterOp) hvalue
    obtain ⟨after, hafter, hafterValue⟩ := exists_blanks afterValue
    rw [char_eq_ok] at hclose
    -- What is known of the rest of the text is needed of the blanks and the value only.
    have hlongest : FollowsOperator op (gap ++ value) := by
      intro hshort c hc
      apply hfollows hshort
      rw [hafterOp, htaken, ← List.append_assoc]
      exact List.mem_head?_append_of_mem_head? hc
    refine ⟨_, ?_, .tested hbefore hpath hmiddle hgap hvalue hlongest (hblanks.append hafter)⟩
    rw [ht, htext, hafterPath, hop, hafterOp, htaken, hafterValue, hclose]
    simp

/-! ### Pseudo-classes -/

theorem digitsFrom?_eq {digits : Text} (h : ∀ c ∈ digits, c.isDigit = true) (value : Nat) :
    Number.digitsFrom? 10 value digits = some (Nat.ofDigitChars 10 digits value) := by
  induction digits generalizing value with
  | nil => rfl
  | cons c digits ih =>
    obtain ⟨hc, hdigits⟩ := List.forall_mem_cons.mp h
    have hvalue : Number.digitValue? 10 c = some (c.toNat - '0'.toNat) := by
      obtain ⟨hlow, hhigh⟩ := Char.isDigit_iff_toNat.mp hc
      have hzero : '0'.toNat = 48 := rfl
      have hnine : '9'.toNat = 57 := rfl
      simp only [Number.digitValue?, hlow, hhigh, decide_true, Bool.and_self, if_true,
        Option.filter_some]
      rw [if_pos (by simp; omega)]
    rw [Number.digitsFrom?, hvalue, Nat.ofDigitChars_cons]
    exact ih hdigits _

/-- Digits spell an index just when `Number.word?` reads them as a positive number. -/
theorem spellsIndex_iff {digits : Text} {position : Nat} (h : ∀ c ∈ digits, c.isDigit = true) :
    (Number.word? 10 digits).filter (1 ≤ ·) = some position ↔ SpellsIndex digits position := by
  cases digits with
  | nil => simp [Number.word?, Number.digitsValue?, SpellsIndex]
  | cons c digits =>
    -- `Number.word?` would allow a sign, but this is a digit.
    have hplus : (c :: digits).head? ≠ some '+' := by
      rintro ⟨⟩
      simpa using h '+' List.mem_cons_self
    have hvalue : Number.digitsValue? 10 (c :: digits) =
        some (Nat.ofDigitChars 10 (c :: digits) 0) := by
      rw [Number.digitsValue?, digitsFrom?_eq h]
      rfl
    have hmax : Number.wordMax + 1 = 2 ^ 64 := by decide
    rw [Number.word?_of_digitsValue? hplus hvalue, Option.filter_eq_some_iff,
      Option.ite_none_right_eq_some, Option.some.injEq, decide_eq_true_eq]
    constructor
    · rintro ⟨⟨hle, rfl⟩, hpos⟩
      exact ⟨List.cons_ne_nil _ _, h, rfl, hpos, by omega⟩
    · rintro ⟨_, _, rfl, hpos, hlt⟩
      exact ⟨⟨by omega, rfl⟩, hpos⟩

theorem parenIndex_sound {t rest : Text} {position : Nat}
    (h : parenIndex t = .ok (position, rest)) :
    ∃ before digits after, t = '(' :: (before ++ (digits ++ (after ++ ')' :: rest))) ∧
      IsBlanks before ∧ SpellsIndex digits position ∧ IsBlanks after := by
  unfold parenIndex at h
  rw [bind_eq_ok] at h
  obtain ⟨inside, hopen, h⟩ := h
  rw [char_eq_ok] at hopen
  dsimp only at h
  split at h
  · cases h
  · next position' hposition =>
    rw [bind_eq_ok] at h
    obtain ⟨rest', hclose, heq⟩ := h
    cases heq
    rw [char_eq_ok] at hclose
    obtain ⟨before, hbefore, hinside⟩ := exists_blanks inside
    obtain ⟨after, hafter, hrest⟩ := exists_blanks ((Text.skipBlank inside).dropWhile Char.isDigit)
    rw [spellsIndex_iff fun _ => List.mem_takeWhile_imp] at hposition
    refine ⟨before, _, after, ?_, hbefore, hposition, hafter⟩
    rw [hopen, ← hclose, ← hrest, List.takeWhile_append_dropWhile, ← hinside]

/-- What the reader gives is spelled by what it takes (`SpellsList`). -/
def ListReader.Sound (inner : ListReader) : Prop :=
  ∀ {t rest : Text} {list : SelectorList}, inner t = .ok (list, rest) →
    ∃ taken, t = taken ++ rest ∧ SpellsList taken list

variable {inner : ListReader}

theorem parenList_sound (hinner : inner.Sound) {t rest : Text} {list : SelectorList}
    (h : parenList inner t = .ok (list, rest)) :
    ∃ taken, t = '(' :: (taken ++ ')' :: rest) ∧ SpellsList taken list := by
  unfold parenList at h
  rw [bind_eq_ok] at h
  obtain ⟨inside, hopen, h⟩ := h
  rw [bind_eq_ok] at h
  obtain ⟨⟨list', afterList⟩, hread, h⟩ := h
  dsimp only at h
  rw [bind_eq_ok] at h
  obtain ⟨rest', hclose, heq⟩ := h
  cases heq
  rw [char_eq_ok] at hopen hclose
  obtain ⟨taken, rfl, hlist⟩ := hinner hread
  obtain ⟨blanks, hblanks, hafterList⟩ := exists_blanks afterList
  refine ⟨taken ++ blanks, ?_, hlist.append_blanks hblanks⟩
  rw [hopen, hafterList, hclose]
  simp

/-- A pseudo-class of the table `nestingPseudos`, whatever it makes of the list. -/
theorem nesting_sound (hinner : inner.Sound) {word : String} {make : SelectorList → Pseudo}
    (hmake : (word, make) ∈ nestingPseudos) {t rest : Text} {read : Pseudo}
    (h : (do return (← parenList inner t).map make id) = Except.ok (read, rest)) :
    ∃ taken, word.toList ++ t = taken ++ rest ∧ SpellsPseudo taken read := by
  rw [bind_eq_ok] at h
  obtain ⟨⟨list, rest'⟩, hread, heq⟩ := h
  cases heq
  obtain ⟨taken, rfl, hlist⟩ := parenList_sound hinner hread
  exact ⟨_, by simp, .nesting hmake hlist⟩

/-- A pseudo-class of the table `indexedPseudos`, whatever it makes of the position. -/
theorem indexed_sound {word : String} {make : Nat → Pseudo}
    (hmake : (word, make) ∈ indexedPseudos) {t rest : Text} {read : Pseudo}
    (h : (do return (← parenIndex t).map make id) = Except.ok (read, rest)) :
    ∃ taken, word.toList ++ t = taken ++ rest ∧ SpellsPseudo taken read := by
  rw [bind_eq_ok] at h
  obtain ⟨⟨position, rest'⟩, hread, heq⟩ := h
  cases heq
  obtain ⟨before, digits, after, rfl, hbefore, hdigits, hafter⟩ := parenIndex_sound hread
  exact ⟨_, by simp, .indexed hmake hbefore hdigits hafter⟩

theorem pseudo_sound (hinner : inner.Sound) {t rest : Text} {read : Pseudo}
    (h : pseudo inner t = .ok (read, rest)) :
    ∃ taken, t = taken ++ rest ∧ SpellsPseudo taken read := by
  unfold pseudo at h
  rw [bind_eq_ok] at h
  obtain ⟨⟨word, afterName⟩, hname, h⟩ := h
  obtain ⟨_, rfl⟩ := someName_sound hname
  dsimp only at h
  rw [← String.toList_ofList (l := word)]
  generalize String.ofList word = written at h ⊢
  -- One case for each word, in the order of the reader.
  split at h
  · exact nesting_sound hinner (by simp [nestingPseudos]) h
  · exact nesting_sound hinner (by simp [nestingPseudos]) h
  · exact nesting_sound hinner (by simp [nestingPseudos]) h
  · exact nesting_sound hinner (by simp [nestingPseudos]) h
  · cases h
    exact ⟨_, rfl, .plain (by simp [plainPseudos])⟩
  · cases h
    exact ⟨_, rfl, .plain (by simp [plainPseudos])⟩
  · exact indexed_sound (by simp [indexedPseudos]) h
  · exact indexed_sound (by simp [indexedPseudos]) h
  · cases h
    exact ⟨_, rfl, .plain (by simp [plainPseudos])⟩
  · cases h
    exact ⟨_, rfl, .plain (by simp [plainPseudos])⟩
  · cases h

/-! ### Compounds, chains and lists -/

theorem kind_sound {t rest : Text} {read : Option String} (h : kind t = .ok (read, rest)) :
    ∃ taken, t = taken ++ rest ∧ SpellsKind taken read := by
  unfold kind at h
  split at h
  · cases h
    exact ⟨['*'], rfl, .star⟩
  · split at h
    · next hname =>
      cases h
      exact ⟨[], (name_spec hname).1, .nothing⟩
    · next word afterName hne hname =>
      obtain ⟨ht, hchars⟩ := name_spec hname
      have hword : SpellsKind word (some (String.ofList word)) := .name ⟨hne, hchars⟩
      -- After the word `Kind` and a sign of equality, a second name is the kind.
      split at h
      · next after =>
        by_cases hkind : word = "Kind".toList
        · rw [if_pos hkind, bind_eq_ok] at h
          obtain ⟨⟨word', rest'⟩, hread, heq⟩ := h
          cases heq
          obtain ⟨hname', rfl⟩ := someName_sound hread
          exact ⟨_, by rw [ht, hkind]; rfl, .explicit hname'⟩
        · rw [if_neg hkind] at h
          cases h
          exact ⟨word, ht, hword⟩
      · cases h
        exact ⟨word, ht, hword⟩

/-- The reader of parts adds to the lists it is given; what it adds is spelled. -/
theorem parts_sound (hinner : inner.Sound) {bound : Nat} {attributes attributes' : List Attribute}
    {pseudos pseudos' : List Pseudo} {t rest : Text}
    (h : parts inner bound attributes pseudos t = .ok ((attributes', pseudos'), rest)) :
    ∃ taken moreAttributes morePseudos, t = taken ++ rest ∧
      attributes' = attributes ++ moreAttributes ∧ pseudos' = pseudos ++ morePseudos ∧
        SpellsParts taken moreAttributes morePseudos := by
  fun_induction parts inner bound attributes pseudos t with
  | case1 bound attributes pseudos t ih =>
    rw [bind_eq_ok] at h
    obtain ⟨⟨read, afterRead⟩, hread, h⟩ := h
    obtain ⟨inside, rfl, hinside⟩ := bracketed_sound hread
    obtain ⟨taken, moreAttributes, morePseudos, rfl, rfl, rfl, hparts⟩ := ih _ _ h
    exact ⟨_, _, _, by simp, by simp, rfl, .bracketed hinside hparts⟩
  | case2 bound attributes pseudos t ih =>
    rw [bind_eq_ok] at h
    obtain ⟨⟨read, afterRead⟩, hread, h⟩ := h
    obtain ⟨text, rfl, htext⟩ := pseudo_sound hinner hread
    obtain ⟨taken, moreAttributes, morePseudos, rfl, rfl, rfl, hparts⟩ := ih _ _ h
    exact ⟨_, _, _, by simp, rfl, by simp, .pseudo htext hparts⟩
  | case3 bound attributes pseudos t =>
    cases h
    exact ⟨[], [], [], rfl, by simp, by simp, .nil⟩

theorem compound_sound (hinner : inner.Sound) {t rest : Text} {read : Compound}
    (h : compound inner t = .ok (read, rest)) :
    ∃ taken, t = taken ++ rest ∧ SpellsCompound taken read := by
  unfold compound at h
  rw [bind_eq_ok] at h
  obtain ⟨⟨kind, afterKind⟩, hreadKind, h⟩ := h
  dsimp only at h
  rw [bind_eq_ok] at h
  obtain ⟨⟨⟨attributes, pseudos⟩, after⟩, hreadParts, h⟩ := h
  dsimp only at h
  obtain ⟨text, rfl, hkind⟩ := kind_sound hreadKind
  obtain ⟨taken, moreAttributes, morePseudos, rfl, rfl, rfl, hparts⟩ :=
    parts_sound hinner hreadParts
  split at h
  · cases h
  · next hlength =>
    cases h
    refine ⟨text ++ taken, by simp, .mk hkind hparts ?_⟩
    intro hnil
    rw [← List.append_assoc, hnil] at hlength
    exact hlength rfl

/-- The reader of a chain may leave blanks behind the last compound, which belong to no chain. -/
theorem chain_sound (hinner : inner.Sound) {bound : Nat} {left whole : Complex} {t rest : Text}
    (h : chain inner bound left t = .ok (whole, rest)) :
    ∃ taken blanks, t = taken ++ (blanks ++ rest) ∧ SpellsChain left taken whole ∧
      IsBlanks blanks := by
  induction bound generalizing left t with
  | zero =>
    cases h
    exact ⟨[], [], rfl, .nil _, isBlanks_nil⟩
  | succ bound ih =>
    obtain ⟨before, hbefore, ht⟩ := exists_blanks t
    -- A compound behind a combinator, and the chain from there on.
    have hjoin : ∀ {combinator : Combinator} {join after : Text}, SpellsCombinator join combinator →
        t = join ++ after →
        (compound inner after >>= fun read =>
          chain inner bound (.combined left combinator read.1) read.2) = .ok (whole, rest) →
        ∃ taken blanks, t = taken ++ (blanks ++ rest) ∧ SpellsChain left taken whole ∧
          IsBlanks blanks := by
      intro combinator join after hcombinator ht h
      rw [bind_eq_ok] at h
      obtain ⟨⟨subject, afterSubject⟩, hread, h⟩ := h
      obtain ⟨text, rfl, hsubject⟩ := compound_sound hinner hread
      obtain ⟨taken, blanks, rfl, hchain, hblanks⟩ := ih h
      exact ⟨_, blanks, by simp [ht], .cons hcombinator hsubject hchain, hblanks⟩
    rw [chain] at h
    dsimp only at h
    -- The end of the text, a comma and a closing parenthesis; then the combinators that are
    -- written out; then a compound behind blanks.
    split at h
    · cases h
      exact ⟨[], before, ht, .nil _, hbefore⟩
    · cases h
      exact ⟨[], before, ht, .nil _, hbefore⟩
    · cases h
      exact ⟨[], before, ht, .nil _, hbefore⟩
    · next tail hsymbol =>
      obtain ⟨after, hafter, htail⟩ := exists_blanks tail
      rw [hsymbol, htail] at ht
      exact hjoin (.child hbefore hafter) (by simpa using ht) h
    · next tail hsymbol =>
      obtain ⟨after, hafter, htail⟩ := exists_blanks tail
      rw [hsymbol, htail] at ht
      exact hjoin (.sibling hbefore hafter) (by simpa using ht) h
    · next tail hsymbol =>
      obtain ⟨after, hafter, htail⟩ := exists_blanks tail
      rw [hsymbol, htail] at ht
      exact hjoin (.adjacent hbefore hafter) (by simpa using ht) h
    · by_cases hshorter : (Text.skipBlank t).length < t.length
      · rw [if_pos hshorter] at h
        have hne : before ≠ [] := by
          rintro rfl
          rw [List.nil_append] at ht
          rw [← ht] at hshorter
          exact Nat.lt_irrefl _ hshorter
        exact hjoin (.descendant hne hbefore) ht h
      · rw [if_neg hshorter] at h
        cases h

theorem complex_sound (hinner : inner.Sound) {t rest : Text} {read : Complex}
    (h : complex inner t = .ok (read, rest)) :
    ∃ before text after, t = before ++ (text ++ (after ++ rest)) ∧ IsBlanks before ∧
      SpellsComplex text read ∧ IsBlanks after := by
  unfold complex at h
  rw [bind_eq_ok] at h
  obtain ⟨⟨first, afterFirst⟩, hread, h⟩ := h
  obtain ⟨before, hbefore, ht⟩ := exists_blanks t
  obtain ⟨text, htext, hfirst⟩ := compound_sound hinner hread
  obtain ⟨taken, blanks, rfl, hchain, hblanks⟩ := chain_sound hinner h
  refine ⟨before, text ++ taken, blanks, ?_, hbefore, .mk hfirst hchain, hblanks⟩
  rw [ht, htext]
  simp

/-- What the alternatives after commas add to a list, behind any alternative. -/
theorem alternatives_sound (hinner : inner.Sound) {bound : Nat} {list list' : SelectorList}
    {t rest : Text} (h : alternatives inner bound list t = .ok (list', rest)) :
    ∃ taken more, t = taken ++ rest ∧ list' = list ++ more ∧
      ∀ {before text after : Text} {complex : Complex}, IsBlanks before →
        SpellsComplex text complex → IsBlanks after →
          SpellsList (before ++ (text ++ (after ++ taken))) (complex :: more) := by
  induction bound generalizing list t with
  | zero =>
    cases h
    refine ⟨[], [], rfl, by simp, ?_⟩
    intro before text after complex hbefore hcomplex hafter
    rw [List.append_nil]
    exact .one hbefore hcomplex hafter
  | succ bound ih =>
    obtain ⟨blanks, hblanks, ht⟩ := exists_blanks t
    rw [alternatives] at h
    split at h
    · next tail hcomma =>
      rw [bind_eq_ok] at h
      obtain ⟨⟨next, afterNext⟩, hnext, h⟩ := h
      -- The next alternative is the one that the rest of the list stands behind.
      obtain ⟨before', text', after', rfl, hbefore', hcomplex', hafter'⟩ :=
        complex_sound hinner hnext
      obtain ⟨taken, more, rfl, rfl, hmore⟩ := ih h
      refine ⟨blanks ++ ',' :: (before' ++ (text' ++ (after' ++ taken))), next :: more, ?_,
        by simp, ?_⟩
      · rw [ht, hcomma]
        simp
      · intro before text after complex hbefore hcomplex hafter
        rw [← List.append_assoc after]
        exact .more hbefore hcomplex (hafter.append hblanks) (hmore hbefore' hcomplex' hafter')
    · cases h
      refine ⟨blanks, [], ht, by simp, ?_⟩
      intro before text after complex hbefore hcomplex hafter
      exact .one hbefore hcomplex (hafter.append hblanks)

theorem list_sound (hinner : inner.Sound) : ListReader.Sound (list inner) := by
  intro t rest list h
  unfold SelectorReader.list at h
  rw [bind_eq_ok] at h
  obtain ⟨⟨first, afterFirst⟩, hfirst, h⟩ := h
  obtain ⟨before, text, after, rfl, hbefore, hcomplex, hafter⟩ := complex_sound hinner hfirst
  obtain ⟨taken, more, rfl, rfl, hmore⟩ := alternatives_sound hinner h
  exact ⟨_, by simp, hmore hbefore hcomplex hafter⟩

/-- **Soundness.**  At any depth, what `listWithin` reads is spelled by what it has taken. -/
theorem listWithin_sound (bound : Nat) : ListReader.Sound (listWithin bound) := by
  -- One level is sound for any sound reader of the level below.
  induction bound with
  | zero =>
    intro t rest list h
    cases h
  | succ bound ih => exact list_sound ih

end SyntaxGraft.SelectorReader
