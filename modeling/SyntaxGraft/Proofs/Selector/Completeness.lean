import SyntaxGraft.Proofs.Selector.Soundness
import SyntaxGraft.Proofs.Unicode.Blank
/-!
# What is spelled is read

Every text that spells a selector is read as that selector: `listWithin_complete` for lists, with
one lemma for each reader on the way.  A reader has to stop where the spelling ends, so every lemma
asks that what follows does not go on with what was read (`Stops`); in the grammar it never does,
because no character is both blank and part of a name.

The readers of one level are treated for any reader of nested lists that is complete for shorter
texts.
-/

namespace SyntaxGraft.SelectorReader

open SelectorGrammar

/-! ### Runs -/

/-- The text is empty or begins with a character that is none of these. -/
def Stops (among : Char → Bool) (t : Text) : Prop :=
  ∀ c ∈ t.head?, among c = false

theorem stops_nil (among : Char → Bool) : Stops among [] :=
  fun _ h => by cases h

@[simp]
theorem stops_cons {among : Char → Bool} {c : Char} {t : Text} :
    Stops among (c :: t) ↔ among c = false := by
  simp [Stops]

theorem stops_append {among : Char → Bool} {s t : Text} (hs : ∀ c ∈ s, among c = false)
    (ht : Stops among t) : Stops among (s ++ t) := by
  cases s with
  | nil => exact ht
  | cons c s => exact stops_cons.mpr (hs c List.mem_cons_self)

/-- What the readers take of a run that `rest` does not go on with is the run. -/
theorem takeWhile_run {among : Char → Bool} {run rest : Text} (hrun : ∀ c ∈ run, among c = true)
    (hrest : Stops among rest) : (run ++ rest).takeWhile among = run := by
  rw [List.takeWhile_append_of_pos hrun]
  cases rest with
  | nil => simp
  | cons c rest => simp [stops_cons.mp hrest]

theorem dropWhile_run {among : Char → Bool} {run rest : Text} (hrun : ∀ c ∈ run, among c = true)
    (hrest : Stops among rest) : (run ++ rest).dropWhile among = rest := by
  rw [List.dropWhile_append_of_pos hrun]
  cases rest with
  | nil => rfl
  | cons c rest => simp [stops_cons.mp hrest]

theorem skipBlank_append {blanks t : Text} (hblanks : IsBlanks blanks) (ht : Stops isBlank t) :
    Text.skipBlank (blanks ++ t) = t :=
  dropWhile_run hblanks ht

theorem skipBlank_of_stops {t : Text} (ht : Stops isBlank t) : Text.skipBlank t = t :=
  skipBlank_append isBlanks_nil ht

theorem beq_eq_false_of_isBlank {c d : Char} (hc : isBlank c = true) (hd : isBlank d = false) :
    (c == d) = false := by
  rw [beq_eq_false_iff_ne]
  rintro rfl
  rw [hc] at hd
  cases hd

/-- A blank is no character of names, so that a name ends at `IsBlanks`. -/
theorem isNameChar_of_isBlank {c : Char} (h : isBlank c = true) : isNameChar c = false := by
  rw [isNameChar, Unicode.isAlphanumeric_of_isBlank h, beq_eq_false_of_isBlank h (d := '_') rfl,
    beq_eq_false_of_isBlank h (d := '-') rfl, beq_eq_false_of_isBlank h (d := '$') rfl]
  rfl

theorem isBlank_of_isNameChar {c : Char} (h : isNameChar c = true) : isBlank c = false := by
  rw [Bool.eq_false_iff]
  intro hblank
  rw [isNameChar_of_isBlank hblank] at h
  cases h

theorem ok_bind {ε α β : Type} (value : α) (f : α → Except ε β) :
    (Except.ok value >>= f) = f value :=
  rfl

theorem name_complete {word rest : Text} (hword : ∀ c ∈ word, isNameChar c = true)
    (hrest : Stops isNameChar rest) : name (word ++ rest) = (word, rest) := by
  rw [name, takeWhile_run hword hrest, dropWhile_run hword hrest]

theorem someName_complete {what : Expectation} {word rest : Text} (hword : IsName word)
    (hrest : Stops isNameChar rest) : someName what (word ++ rest) = .ok (word, rest) := by
  obtain ⟨hne, hchars⟩ := hword
  rw [someName, name_complete hchars hrest]
  split
  · next heq => exact absurd (Prod.mk.inj heq).1 hne
  · next heq =>
    obtain ⟨rfl, rfl⟩ := Prod.mk.inj heq
    rfl

/-! ### Paths and values -/

/-- `fieldPath` takes a word in character by character, with the latest in front. -/
theorem fieldPath_run {word : Text} (hword : ∀ c ∈ word, isNameChar c = true) (before rest : Text) :
    fieldPath before (word ++ rest) = fieldPath (word.reverse ++ before) rest := by
  induction word generalizing before with
  | nil => rfl
  | cons c word ih =>
    obtain ⟨hc, hword⟩ := List.forall_mem_cons.mp hword
    rw [List.cons_append, fieldPath, if_pos hc, ih hword]
    simp

theorem fieldPath_complete {text : Text} {path : List String} (h : SpellsPath text path)
    {rest : Text} (hrest : Stops isNameChar rest) (hdot : Stops (· == '.') rest) :
    fieldPath [] (text ++ rest) = .ok (path, rest) := by
  induction h with
  | one hword =>
    rename_i word
    obtain ⟨hne, hchars⟩ := hword
    have hempty : ¬ word.reverse.isEmpty = true := by simpa using hne
    rw [fieldPath_run hchars, List.append_nil]
    cases rest with
    | nil => rw [fieldPath, if_neg hempty, List.reverse_reverse]
    | cons c rest =>
      have hc : isNameChar c = false := stops_cons.mp hrest
      have hc' : c ≠ '.' := by simpa using stops_cons.mp hdot
      rw [fieldPath, hc, if_neg Bool.false_ne_true, if_neg hempty, if_neg hc', List.reverse_reverse]
  | more hword hpath ih =>
    rename_i word text names
    obtain ⟨hne, hchars⟩ := hword
    have hempty : ¬ word.reverse.isEmpty = true := by simpa using hne
    have hc : isNameChar '.' = false := by decide
    rw [List.append_assoc, fieldPath_run hchars, List.append_nil, List.cons_append, fieldPath, hc,
      if_neg Bool.false_ne_true, if_neg hempty, if_pos rfl, ih, List.reverse_reverse]
    rfl

theorem quotedValue_complete {quote : Char} (hquote : quote ≠ '\\') {text value : Text}
    (h : SpellsQuoted quote text value) (rest : Text) :
    quotedValue quote (text ++ quote :: rest) = .ok (value, rest) := by
  induction h with
  | nil => simp [quotedValue, hquote]
  | lineEnd h ih =>
    rw [List.cons_append, List.cons_append, quotedValue, ih]
    rfl
  | tab h ih =>
    rw [List.cons_append, List.cons_append, quotedValue, ih]
    rfl
  | escaped hn ht h ih =>
    rw [List.cons_append, List.cons_append, quotedValue, ih]
    simp only [if_neg hn, if_neg ht]
    rfl
  | plain hc hslash h ih =>
    -- The reader looks for an escape first, and there is none without a backslash.
    rw [List.cons_append, quotedValue, if_neg hc, ih]
    · rfl
    · intro hback
      exact absurd hback hslash
    · intro _ _ hback
      exact absurd hback hslash

theorem trimEnd_append {text blanks : Text} (hblanks : IsBlanks blanks)
    (hlast : ∀ c ∈ text.getLast?, isBlank c = false) : Text.trimEnd (text ++ blanks) = text := by
  have hreverse : IsBlanks blanks.reverse := fun c hc => hblanks c (List.mem_reverse.mp hc)
  have hstops : Stops isBlank text.reverse := by
    rw [Stops, List.head?_reverse]
    exact hlast
  rw [Text.trimEnd, List.reverse_append, dropWhile_run hreverse hstops, List.reverse_reverse]

theorem bareValue_complete {value blanks : Text} (hvalue : IsBareValue value)
    (hblanks : IsBlanks blanks) (rest : Text) :
    bareValue (value ++ (blanks ++ ']' :: rest)) = .ok (value, ']' :: rest) := by
  have hrun : ∀ c ∈ value ++ blanks, decide (c ≠ ']') = true := by
    intro c hc
    rw [decide_eq_true_eq]
    rcases List.mem_append.mp hc with hc | hc
    · exact hvalue.no_bracket c hc
    · rintro rfl
      exact Bool.false_ne_true (hblanks ']' hc)
  have hstops : Stops (fun c => decide (c ≠ ']')) (']' :: rest) := by simp
  unfold bareValue
  rw [← List.append_assoc, takeWhile_run hrun hstops, dropWhile_run hrun hstops,
    trimEnd_append hblanks hvalue.last]
  obtain ⟨c, tail, rfl⟩ := List.exists_cons_of_ne_nil hvalue.ne_nil
  rfl

theorem splitBody?_complete {body : Text} (h : IsRegexBody body) (rest : Text) :
    Regex.splitBody? (body ++ '/' :: rest) = some (body, rest) := by
  induction h with
  | nil => rfl
  | escaped h ih =>
    rw [List.cons_append, List.cons_append, Regex.splitBody?, ih]
    rfl
  | plain hslash hback h ih =>
    rw [List.cons_append, Regex.splitBody?, ih]
    · rfl
    · exact hslash
    · intro _ _ hc
      exact absurd hc hback

/-- A blank is no letter of flags. -/
theorem isAlpha_of_isBlank {c : Char} (h : isBlank c = true) : c.isAlpha = false := by
  simp only [isBlank, Bool.or_eq_true, Bool.and_eq_true, decide_eq_true_eq, beq_iff_eq] at h
  show (decide ('A' ≤ c ∧ c ≤ 'Z') || decide ('a' ≤ c) && decide (c ≤ 'z')) = false
  rw [Bool.or_eq_false_iff, decide_eq_false_iff_not, Bool.and_eq_false_iff]
  simp only [decide_eq_false_iff_not, Char.le_def, UInt32.le_iff_toNat_le, Char.toNat_val,
    Char.isValue, Char.reduceToNat]
  omega

theorem isDigit_of_isBlank {c : Char} (h : isBlank c = true) : c.isDigit = false := by
  simp only [isBlank, Bool.or_eq_true, Bool.and_eq_true, decide_eq_true_eq, beq_iff_eq] at h
  rw [Bool.eq_false_iff, Ne, Char.isDigit_iff_toNat]
  simp only [Char.isValue, Char.reduceToNat]
  omega

/-- `valueTest` reads a value, and at most the blanks after it: a bare value takes them in to be cut
off again, the others leave them. -/
theorem valueTest_complete {op : CompareOp} {value blanks : Text} {test : AttributeTest}
    (hvalue : SpellsValue op value test) (hblanks : IsBlanks blanks) (rest : Text) :
    ∃ after, valueTest op (value ++ (blanks ++ ']' :: rest)) = .ok (test, after) ∧
      Text.skipBlank after = ']' :: rest := by
  have hskip : Text.skipBlank (blanks ++ ']' :: rest) = ']' :: rest :=
    skipBlank_append hblanks (stops_cons.mpr rfl)
  cases hvalue with
  | @quoted quote hquote text value h =>
    have hread := quotedValue_complete (by rcases hquote with rfl | rfl <;> decide) h
      (blanks ++ ']' :: rest)
    refine ⟨blanks ++ ']' :: rest, ?_, hskip⟩
    rw [List.cons_append, List.append_assoc, List.singleton_append]
    rcases hquote with rfl | rfl
    · rw [valueTest, hread]
      rfl
    · rw [valueTest, hread]
      rfl
  | @regex body flags hbody hflags pattern h negated =>
    have hstops : Stops Char.isAlpha (blanks ++ ']' :: rest) :=
      stops_append (fun c hc => isAlpha_of_isBlank (hblanks c hc)) (stops_cons.mpr rfl)
    have hnegated : regexNegated (if negated then .ne else .eq) = .ok negated := by
      cases negated <;> rfl
    refine ⟨blanks ++ ']' :: rest, ?_, hskip⟩
    rw [List.cons_append, List.append_assoc, List.cons_append, valueTest, regexTest, hnegated,
      splitBody?_complete hbody]
    simp only [takeWhile_run hflags hstops, dropWhile_run hflags hstops, h]
    rfl
  | bare hbare =>
    refine ⟨']' :: rest, ?_, skipBlank_of_stops (stops_cons.mpr rfl)⟩
    obtain ⟨c, tail, rfl⟩ := List.exists_cons_of_ne_nil hbare.ne_nil
    obtain ⟨_, hslash, hdouble, hsingle⟩ := hbare.head c rfl
    rw [List.cons_append, valueTest, ← List.cons_append, bareValue_complete hbare hblanks]
    · rfl
    · intro _ heq
      exact hslash (List.cons.inj heq).1
    · intro _ heq
      exact hdouble (List.cons.inj heq).1
    · intro _ heq
      exact hsingle (List.cons.inj heq).1

/-- `operator` takes the longest operator, so a short one is read only where no `=` follows. -/
theorem operator_complete {op : CompareOp} {rest : Text} (h : FollowsOperator op rest) :
    operator (op.symbol.toList ++ rest) = .ok (op, rest) := by
  have hlonger : op = .lt ∨ op = .gt → ∀ tail, rest ≠ '=' :: tail := by
    rintro hshort tail rfl
    exact h hshort '=' rfl rfl
  cases op with
  | eq => rfl
  | ne => rfl
  | le => rfl
  | ge => rfl
  | lt =>
    show operator ('<' :: rest) = _
    rw [operator]
    exact fun tail heq => hlonger (.inl rfl) tail heq
  | gt =>
    show operator ('>' :: rest) = _
    rw [operator]
    exact fun tail heq => hlonger (.inr rfl) tail heq

theorem stops_path {text : Text} {path : List String} (h : SpellsPath text path)
    (rest : Text) : Stops isBlank (text ++ rest) := by
  have hword : ∀ {word : Text}, IsName word → ∀ rest, Stops isBlank (word ++ rest) := by
    rintro word ⟨hne, hchars⟩ rest
    obtain ⟨c, tail, rfl⟩ := List.exists_cons_of_ne_nil hne
    exact stops_cons.mpr (isBlank_of_isNameChar (hchars c List.mem_cons_self))
  cases h with
  | one h => exact hword h rest
  | more h hrest =>
    rw [List.append_assoc]
    exact hword h _

theorem stops_value {op : CompareOp} {value : Text} {test : AttributeTest}
    (h : SpellsValue op value test) (rest : Text) : value ≠ [] ∧ Stops isBlank (value ++ rest) := by
  cases h with
  | quoted hquote h op =>
    refine ⟨List.cons_ne_nil _ _, stops_cons.mpr ?_⟩
    rcases hquote with rfl | rfl <;> rfl
  | regex => exact ⟨List.cons_ne_nil _ _, stops_cons.mpr rfl⟩
  | bare h op =>
    obtain ⟨c, tail, rfl⟩ := List.exists_cons_of_ne_nil h.ne_nil
    exact ⟨List.cons_ne_nil _ _, stops_cons.mpr (h.head c rfl).1⟩

theorem stops_operator (op : CompareOp) (rest : Text) : Stops isBlank (op.symbol.toList ++ rest) ∧
    Stops isNameChar (op.symbol.toList ++ rest) ∧ Stops (· == '.') (op.symbol.toList ++ rest) ∧
      Stops (· == ']') (op.symbol.toList ++ rest) := by
  cases op <;> exact ⟨stops_cons.mpr (by decide), stops_cons.mpr (by decide),
    stops_cons.mpr (by decide), stops_cons.mpr (by decide)⟩

theorem bracketed_complete {inside : Text} {read : Attribute} (h : SpellsAttribute inside read)
    (rest : Text) : bracketed (inside ++ ']' :: rest) = .ok (read, rest) := by
  -- The path ends at blanks, at the operator or at the bracket.
  have hpathStops : ∀ {blanks t : Text}, IsBlanks blanks → Stops isNameChar t → Stops (· == '.') t →
      Stops isNameChar (blanks ++ t) ∧ Stops (· == '.') (blanks ++ t) := by
    intro blanks t hblanks hname hdot
    refine ⟨stops_append (fun c hc => isNameChar_of_isBlank (hblanks c hc)) hname,
      stops_append ?_ hdot⟩
    intro c hc
    exact beq_eq_false_of_isBlank (hblanks c hc) rfl
  unfold bracketed
  cases h with
  | @present before text after path hbefore hpath hafter =>
    have hclose : Stops isBlank (']' :: rest) := stops_cons.mpr rfl
    obtain ⟨hname, hdot⟩ := hpathStops hafter (t := ']' :: rest) (stops_cons.mpr (by decide))
      (stops_cons.mpr rfl)
    rw [List.append_assoc, List.append_assoc, skipBlank_append hbefore (stops_path hpath _),
      fieldPath_complete hpath hname hdot, ok_bind]
    dsimp only
    rw [skipBlank_append hafter hclose]
    rfl
  | @tested before text middle gap value after path op test hbefore hpath hmiddle hgap hvalue
      hfollows hafter =>
    obtain ⟨hne, hvalueStops⟩ := stops_value hvalue (after ++ ']' :: rest)
    obtain ⟨hblank, hopName, hopDot, hbracket⟩ :=
      stops_operator op (gap ++ (value ++ (after ++ ']' :: rest)))
    obtain ⟨hname, hdot⟩ := hpathStops hmiddle hopName hopDot
    obtain ⟨afterValue, hread, hskip⟩ := valueTest_complete hvalue hafter rest
    -- What follows the operator is decided by gap and value, since the value is not empty.
    have hlongest : FollowsOperator op (gap ++ (value ++ (after ++ ']' :: rest))) := by
      intro hshort c hc
      apply hfollows hshort
      rw [← List.append_assoc, List.head?_append_of_ne_nil] at hc
      · exact hc
      · simp [hne]
    simp only [List.append_assoc]
    rw [skipBlank_append hbefore (stops_path hpath _),
      fieldPath_complete hpath hname hdot, ok_bind]
    dsimp only
    rw [skipBlank_append hmiddle hblank]
    split
    · next heq =>
      rw [heq] at hbracket
      exact absurd (stops_cons.mp hbracket) (by decide)
    · rw [operator_complete hlongest, ok_bind]
      dsimp only
      rw [skipBlank_append hgap hvalueStops, hread, ok_bind]
      dsimp only
      rw [hskip, char_eq_ok.mpr rfl]
      rfl

/-! ### Pseudo-classes -/

theorem parenIndex_complete {before digits after : Text} {position : Nat}
    (hbefore : IsBlanks before) (hdigits : SpellsIndex digits position) (hafter : IsBlanks after)
    (rest : Text) :
    parenIndex ('(' :: (before ++ (digits ++ (after ++ ')' :: rest)))) = .ok (position, rest) := by
  have hdigits' := hdigits
  obtain ⟨hne, hchars, _⟩ := hdigits'
  have hclose : Stops isBlank (')' :: rest) := stops_cons.mpr rfl
  have hstops : Stops Char.isDigit (after ++ ')' :: rest) :=
    stops_append (fun c hc => isDigit_of_isBlank (hafter c hc)) (stops_cons.mpr rfl)
  have hskip : Stops isBlank (digits ++ (after ++ ')' :: rest)) := by
    obtain ⟨c, tail, rfl⟩ := List.exists_cons_of_ne_nil hne
    rw [List.cons_append, stops_cons, Bool.eq_false_iff]
    intro hblank
    have hdigit := hchars c List.mem_cons_self
    rw [isDigit_of_isBlank hblank] at hdigit
    cases hdigit
  unfold parenIndex
  rw [char_eq_ok.mpr rfl, ok_bind, skipBlank_append hbefore hskip]
  dsimp only
  rw [takeWhile_run hchars hstops, (spellsIndex_iff hchars).mpr hdigits,
    dropWhile_run hchars hstops, skipBlank_append hafter hclose]
  dsimp only
  rw [char_eq_ok.mpr rfl]
  rfl

/-- What follows closes a list, if anything does: it is `[]` or begins with a parenthesis. -/
def Closes (rest : Text) : Prop :=
  ∀ c ∈ rest.head?, c = ')'

/-- The reader reads what texts shorter than `size` spell. -/
def ListReader.CompleteBelow (inner : ListReader) (size : Nat) : Prop :=
  ∀ {text : Text} {list : SelectorList}, SpellsList text list → text.length < size →
    ∀ {rest : Text}, Closes rest → inner (text ++ rest) = .ok (list, rest)

variable {inner : ListReader} {size : Nat}

theorem parenList_complete (hinner : inner.CompleteBelow size) {text : Text} {list : SelectorList}
    (h : SpellsList text list) (hsize : text.length < size) (rest : Text) :
    parenList inner ('(' :: (text ++ ')' :: rest)) = .ok (list, rest) := by
  have hcloses : Closes (')' :: rest) := by simp [Closes]
  unfold parenList
  rw [char_eq_ok.mpr rfl, ok_bind, hinner h hsize hcloses, ok_bind]
  dsimp only
  rw [skipBlank_of_stops (stops_cons.mpr rfl), char_eq_ok.mpr rfl]
  rfl

/-- The names of pseudo-classes are names (`IsName`). -/
theorem isName_pseudos : ∀ word ∈ plainPseudos.map Prod.fst ++ indexedPseudos.map Prod.fst
    ++ nestingPseudos.map Prod.fst, IsName word.toList := by
  decide +kernel

theorem pseudo_complete (hinner : inner.CompleteBelow size) {text : Text} {read : Pseudo}
    (h : SpellsPseudo text read) (hsize : text.length ≤ size) {rest : Text}
    (hrest : Stops isNameChar rest) : pseudo inner (text ++ rest) = .ok (read, rest) := by
  have hopen : ∀ t : Text, Stops isNameChar ('(' :: t) := fun _ => stops_cons.mpr (by decide)
  unfold pseudo
  cases h with
  | @plain word read h =>
    have hname := isName_pseudos word (by simp [List.mem_map_of_mem h])
    rw [someName_complete hname hrest, ok_bind]
    dsimp only
    rw [String.ofList_toList]
    simp only [plainPseudos, List.mem_cons, Prod.mk.injEq, List.not_mem_nil, or_false] at h
    rcases h with ⟨rfl, rfl⟩ | ⟨rfl, rfl⟩ | ⟨rfl, rfl⟩ | ⟨rfl, rfl⟩ <;> rfl
  | @indexed word make before digits after position h hbefore hdigits hafter =>
    have hname := isName_pseudos word (by simp [List.mem_map_of_mem h])
    have hread := parenIndex_complete hbefore hdigits hafter rest
    simp only [List.append_assoc, List.cons_append, List.nil_append]
    rw [someName_complete hname (hopen _), ok_bind]
    dsimp only
    rw [String.ofList_toList]
    simp only [indexedPseudos, List.mem_cons, Prod.mk.injEq, List.not_mem_nil, or_false] at h
    rcases h with ⟨rfl, rfl⟩ | ⟨rfl, rfl⟩
    all_goals
      rw [hread]
      rfl
  | @nesting word make text list h hlist =>
    have hname := isName_pseudos word (by simp [List.mem_map_of_mem h])
    have hshorter : text.length < size := by
      simp only [List.length_append, List.length_cons] at hsize
      omega
    have hread := parenList_complete hinner hlist hshorter rest
    simp only [List.append_assoc, List.cons_append, List.nil_append]
    rw [someName_complete hname (hopen _), ok_bind]
    dsimp only
    rw [String.ofList_toList]
    simp only [nestingPseudos, List.mem_cons, Prod.mk.injEq, List.not_mem_nil, or_false] at h
    rcases h with ⟨rfl, rfl⟩ | ⟨rfl, rfl⟩ | ⟨rfl, rfl⟩ | ⟨rfl, rfl⟩
    all_goals
      rw [hread]
      rfl

/-! ### Compounds -/

/-- A character that goes on with a kind: one of a name (`isNameChar`), `*` or `=`. -/
def continuesKind (c : Char) : Bool :=
  isNameChar c || c == '*' || c == '='

/-- A character that goes on with a compound. -/
def continuesCompound (c : Char) : Bool :=
  continuesKind c || c == '[' || c == ':'

theorem continuesCompound_of_isBlank {c : Char} (h : isBlank c = true) :
    continuesCompound c = false := by
  have hne : ∀ {d : Char}, isBlank d = false → (c == d) = false := beq_eq_false_of_isBlank h
  rw [continuesCompound, continuesKind, isNameChar_of_isBlank h, hne (d := '*') rfl,
    hne (d := '[') rfl, hne (d := ':') rfl, hne (d := '=') rfl]
  rfl

theorem isBlank_of_continuesCompound {c : Char} (h : continuesCompound c = true) :
    isBlank c = false := by
  rw [Bool.eq_false_iff]
  intro hblank
  rw [continuesCompound_of_isBlank hblank] at h
  cases h

/-- Blanks do not go on with a compound (`continuesCompound`), and neither does what follows them.
-/
theorem stops_blanks {blanks t : Text} (hblanks : IsBlanks blanks)
    (ht : Stops continuesCompound t) :
    Stops continuesCompound (blanks ++ t) :=
  stops_append (fun c hc => continuesCompound_of_isBlank (hblanks c hc)) ht

theorem continuesKind_eq_false_iff {c : Char} :
    continuesKind c = false ↔ isNameChar c = false ∧ c ≠ '*' ∧ c ≠ '=' := by
  simp [continuesKind, and_assoc]

theorem continuesCompound_eq_false_iff {c : Char} :
    continuesCompound c = false ↔ continuesKind c = false ∧ c ≠ '[' ∧ c ≠ ':' := by
  simp [continuesCompound, and_assoc]

theorem Stops.isNameChar {t : Text} (h : Stops continuesKind t) : Stops isNameChar t :=
  fun c hc => (continuesKind_eq_false_iff.mp (h c hc)).1

/-- A kind ends where parts or what follows them begin: none of these `continuesKind`. -/
theorem stops_parts {text : Text} {attributes : List Attribute} {pseudos : List Pseudo}
    (h : SpellsParts text attributes pseudos) {rest : Text} (hrest : Stops continuesCompound rest) :
    Stops continuesKind (text ++ rest) := by
  cases h with
  | nil => exact fun c hc => (continuesCompound_eq_false_iff.mp (hrest c hc)).1
  | bracketed => exact stops_cons.mpr (by decide)
  | pseudo => exact stops_cons.mpr (by decide)

theorem kind_complete {text : Text} {read : Option String} (h : SpellsKind text read) {rest : Text}
    (hrest : Stops continuesKind rest) : kind (text ++ rest) = .ok (read, rest) := by
  have hstar : ∀ {tail : Text}, rest ≠ '*' :: tail := by
    rintro tail rfl
    exact absurd (stops_cons.mp hrest) (by decide)
  have hequals : ∀ {tail : Text}, rest ≠ '=' :: tail := by
    rintro tail rfl
    exact absurd (stops_cons.mp hrest) (by decide)
  unfold kind
  cases h with
  | star => rfl
  | nothing =>
    rw [@name_complete [] rest (List.forall_mem_nil _) hrest.isNameChar]
    split
    · next heq => exact absurd heq hstar
    · rfl
  | @name word h =>
    obtain ⟨hne, hchars⟩ := h
    rw [name_complete hchars hrest.isNameChar]
    obtain ⟨c, tail, rfl⟩ := List.exists_cons_of_ne_nil hne
    split
    · next heq =>
      have hc := hchars c List.mem_cons_self
      rw [(List.cons.inj heq).1] at hc
      exact absurd hc (by decide)
    · dsimp only
      split
      · exact absurd rfl hequals
      · rfl
  | @explicit word h =>
    -- `Kind` is itself a name: what follows it makes the reader take it for the keyword.
    have hkind : IsName "Kind".toList := by decide
    have hstops : Stops isNameChar ('=' :: (word ++ rest)) := stops_cons.mpr (by decide)
    have hread := @someName_complete .nodeKind _ _ h hrest.isNameChar
    have htext : "Kind=".toList ++ word ++ rest = "Kind".toList ++ '=' :: (word ++ rest) := by
      rw [List.append_assoc]
      rfl
    rw [htext, name_complete hkind.2 hstops]
    show (if "Kind".toList = "Kind".toList then _ else _) = _
    rw [if_pos rfl, hread]
    rfl

theorem parts_complete (hinner : inner.CompleteBelow size) {rest : Text}
    (hrest : Stops continuesCompound rest) {text : Text} {attributes : List Attribute}
    {pseudos : List Pseudo} : SpellsParts text attributes pseudos → text.length ≤ size →
      ∀ {bound : Nat}, text.length ≤ bound → ∀ attributes' pseudos',
        parts inner bound attributes' pseudos' (text ++ rest) =
          .ok ((attributes' ++ attributes, pseudos' ++ pseudos), rest)
  | .nil => by
    intro _ bound _ attributes' pseudos'
    rw [List.nil_append, List.append_nil, List.append_nil, parts]
    · rintro _ tail _ rfl
      exact absurd (stops_cons.mp hrest) (by decide)
    · rintro _ tail _ rfl
      exact absurd (stops_cons.mp hrest) (by decide)
  | .bracketed h hparts => by
    intro hsize bound hbound attributes' pseudos'
    -- A part takes one round of the loop, and is at least one character long.
    simp only [List.length_cons, List.length_append] at hsize hbound
    obtain ⟨bound, rfl⟩ : ∃ n, bound = n + 1 := ⟨bound - 1, by omega⟩
    rw [List.cons_append, List.append_assoc, List.cons_append, parts, bracketed_complete h, ok_bind]
    dsimp only
    rw [parts_complete hinner hrest hparts (by omega) (by omega)]
    simp
  | .pseudo h hparts => by
    intro hsize bound hbound attributes' pseudos'
    simp only [List.length_cons, List.length_append] at hsize hbound
    obtain ⟨bound, rfl⟩ : ∃ n, bound = n + 1 := ⟨bound - 1, by omega⟩
    rw [List.cons_append, List.append_assoc, parts,
      pseudo_complete hinner h (by omega) (stops_parts hparts hrest).isNameChar, ok_bind]
    dsimp only
    rw [parts_complete hinner hrest hparts (by omega) (by omega)]
    simp

theorem compound_complete (hinner : inner.CompleteBelow size) {text : Text} {read : Compound}
    (h : SpellsCompound text read) (hsize : text.length ≤ size) {rest : Text}
    (hrest : Stops continuesCompound rest) : compound inner (text ++ rest) = .ok (read, rest) := by
  cases h with
  | @mk text parts kind attributes pseudos hkind hparts hne =>
    have hpartsSize : parts.length ≤ size := by
      rw [List.length_append] at hsize
      omega
    have hbound : parts.length ≤ (parts ++ rest).length := by
      rw [List.length_append]
      omega
    have hlength : rest.length ≠ (text ++ parts ++ rest).length := by
      have hpos := List.length_pos_of_ne_nil hne
      simp only [List.length_append] at hpos ⊢
      omega
    unfold compound
    rw [List.append_assoc, kind_complete hkind (stops_parts hparts hrest), ok_bind]
    dsimp only
    rw [parts_complete hinner hrest hparts hpartsSize hbound, ok_bind]
    dsimp only
    rw [← List.append_assoc, if_neg hlength]
    rfl

/-- A compound begins with a character that `continuesCompound`.  So blanks in front of it are no
part of it, and a compound right behind another would be read as one with it. -/
theorem compound_head {text : Text} {read : Compound} (h : SpellsCompound text read) :
    ∃ c tail, text = c :: tail ∧ continuesCompound c = true := by
  cases h with
  | @mk text parts kind attributes pseudos hkind hparts hne =>
    have hparts' : parts ≠ [] → ∃ c tail, parts = c :: tail ∧ continuesCompound c = true := by
      intro hne
      cases hparts with
      | nil => exact absurd rfl hne
      | bracketed => exact ⟨'[', _, rfl, by decide⟩
      | pseudo => exact ⟨':', _, rfl, by decide⟩
    have hname : ∀ {word : Text}, IsName word →
        ∃ c tail, word = c :: tail ∧ continuesCompound c = true := by
      rintro word ⟨hne, hchars⟩
      obtain ⟨c, tail, rfl⟩ := List.exists_cons_of_ne_nil hne
      exact ⟨c, tail, rfl, by simp [continuesCompound, continuesKind, hchars c List.mem_cons_self]⟩
    cases hkind with
    | star => exact ⟨'*', _, rfl, by decide⟩
    | nothing => exact hparts' hne
    | name hword =>
      obtain ⟨c, tail, rfl, hc⟩ := hname hword
      exact ⟨c, _, rfl, hc⟩
    | explicit hword => exact ⟨'K', _, rfl, by decide⟩

/-! ### Chains and lists -/

/-- A combinator before a compound makes `chain` go on with that compound.  Blanks alone stand for a
descendant only if there are some, which the reader tells by the length of what is left. -/
theorem chain_join {bound : Nat} {left : Complex} {join t : Text} {combinator : Combinator}
    (hjoin : SpellsCombinator join combinator)
    (ht : ∃ c tail, t = c :: tail ∧ continuesCompound c = true) :
    chain inner (bound + 1) left (join ++ t) = (do
      let (subject, rest) ← compound inner t
      chain inner bound (.combined left combinator subject) rest) := by
  obtain ⟨c, tail, rfl, hc⟩ := ht
  have hblank : Stops isBlank (c :: tail) := stops_cons.mpr (isBlank_of_continuesCompound hc)
  rw [chain]
  dsimp only
  cases hjoin with
  | child hbefore hafter | sibling hbefore hafter | adjacent hbefore hafter =>
    rw [List.append_assoc, List.cons_append, skipBlank_append hbefore (stops_cons.mpr rfl)]
    show (compound inner (Text.skipBlank (_ ++ c :: tail)) >>= _) = _
    rw [skipBlank_append hafter hblank]
  | descendant hne hblanks =>
    have hlength : (c :: tail).length < (join ++ c :: tail).length := by
      have := List.length_pos_of_ne_nil hne
      rw [List.length_append]
      omega
    rw [skipBlank_append hblanks hblank]
    -- The compound begins with none of the characters that end or join alternatives.
    split
    · next heq => cases heq
    · next heq => exact absurd ((List.cons.inj heq).1 ▸ hc) (by decide)
    · next heq => exact absurd ((List.cons.inj heq).1 ▸ hc) (by decide)
    · next heq => exact absurd ((List.cons.inj heq).1 ▸ hc) (by decide)
    · next heq => exact absurd ((List.cons.inj heq).1 ▸ hc) (by decide)
    · next heq => exact absurd ((List.cons.inj heq).1 ▸ hc) (by decide)
    · exact if_pos hlength

theorem stops_chain {left whole : Complex} {text : Text} (h : SpellsChain left text whole)
    {rest : Text} (hrest : Stops continuesCompound rest) :
    Stops continuesCompound (text ++ rest) := by
  cases h with
  | nil => exact hrest
  | cons hjoin hsubject hrest =>
    rw [List.append_assoc]
    cases hjoin with
    | descendant hne h =>
      -- The blanks that join begin the chain, since there is one at least.
      obtain ⟨c, tail, rfl⟩ := List.exists_cons_of_ne_nil hne
      exact stops_cons.mpr (continuesCompound_of_isBlank (h c List.mem_cons_self))
    | child hbefore _ | sibling hbefore _ | adjacent hbefore _ =>
      rw [List.append_assoc]
      exact stops_blanks hbefore (stops_cons.mpr (by decide))

/-- What follows ends an alternative, if anything does. -/
def Ends (rest : Text) : Prop :=
  ∀ c ∈ rest.head?, c = ',' ∨ c = ')'

theorem Ends.stops {rest : Text} (h : Ends rest) :
    Stops isBlank rest ∧ Stops continuesCompound rest := by
  cases rest with
  | nil => exact ⟨stops_nil _, stops_nil _⟩
  | cons c rest =>
    rw [stops_cons, stops_cons]
    rcases h c rfl with rfl | rfl <;> decide

/-- A `chain` is over at what `Ends` an alternative, with any blanks before it. -/
theorem chain_of_ends {blanks rest : Text} (hblanks : IsBlanks blanks) (hrest : Ends rest)
    {bound : Nat} (hbound : (blanks ++ rest).length ≤ bound) (left : Complex) :
    chain inner bound left (blanks ++ rest) = .ok (left, rest) := by
  cases bound with
  | zero =>
    have hnil := List.eq_nil_of_length_eq_zero (Nat.le_zero.mp hbound)
    obtain ⟨rfl, rfl⟩ := List.append_eq_nil_iff.mp hnil
    rfl
  | succ bound =>
    rw [chain]
    dsimp only
    rw [skipBlank_append hblanks hrest.stops.1]
    cases rest with
    | nil => rfl
    | cons c rest => rcases hrest c rfl with rfl | rfl <;> rfl

/-- One step of `chain`: a combinator and a compound. -/
theorem chain_step (hinner : inner.CompleteBelow size) {join text t : Text}
    {combinator : Combinator} {subject : Compound} (hjoin : SpellsCombinator join combinator)
    (hsubject : SpellsCompound text subject) (hsize : text.length ≤ size)
    (ht : Stops continuesCompound t) (bound : Nat) (left : Complex) :
    chain inner (bound + 1) left (join ++ (text ++ t))
      = chain inner bound (.combined left combinator subject) t := by
  obtain ⟨c, tail, htext, hc⟩ := compound_head hsubject
  rw [chain_join hjoin ⟨c, _, by rw [htext]; rfl, hc⟩, compound_complete hinner hsubject hsize ht,
    ok_bind]

theorem chain_complete (hinner : inner.CompleteBelow size) {blanks rest : Text}
    (hblanks : IsBlanks blanks) (hrest : Ends rest) {left whole : Complex} {text : Text} :
    SpellsChain left text whole → text.length ≤ size → ∀ {bound : Nat},
      (text ++ (blanks ++ rest)).length ≤ bound →
        chain inner bound left (text ++ (blanks ++ rest)) = .ok (whole, rest)
  | .nil left => fun _ _ hbound => chain_of_ends hblanks hrest hbound left
  | @SpellsChain.cons left whole join text more combinator subject hjoin hsubject hchain => by
    intro hsize bound hbound
    have hlength : 0 < text.length := by
      obtain ⟨c, tail, rfl, _⟩ := compound_head hsubject
      exact Nat.succ_pos _
    have hstops : Stops continuesCompound (more ++ (blanks ++ rest)) :=
      stops_chain hchain (stops_blanks hblanks hrest.stops.2)
    simp only [List.length_append] at hsize hbound
    obtain ⟨bound, rfl⟩ : ∃ n, bound = n + 1 := ⟨bound - 1, by omega⟩
    rw [List.append_assoc, List.append_assoc, chain_step hinner hjoin hsubject (by omega) hstops]
    refine chain_complete hinner hblanks hrest hchain (by omega) ?_
    simp only [List.length_append]
    omega

theorem complex_complete (hinner : inner.CompleteBelow size) {before text after rest : Text}
    {read : Complex} (hbefore : IsBlanks before) (h : SpellsComplex text read)
    (hsize : text.length ≤ size) (hafter : IsBlanks after) (hrest : Ends rest) :
    complex inner (before ++ (text ++ (after ++ rest))) = .ok (read, rest) := by
  cases h with
  | @mk text more first whole hfirst hchain =>
    obtain ⟨c, tail, htext, hc⟩ := compound_head hfirst
    have hblank : Stops isBlank (text ++ (more ++ (after ++ rest))) := by
      rw [htext, List.cons_append, stops_cons]
      exact isBlank_of_continuesCompound hc
    have hstops : Stops continuesCompound (more ++ (after ++ rest)) :=
      stops_chain hchain (stops_blanks hafter hrest.stops.2)
    rw [List.length_append] at hsize
    unfold complex
    rw [List.append_assoc, skipBlank_append hbefore hblank,
      compound_complete hinner hfirst (by omega) hstops, ok_bind]
    exact chain_complete hinner hafter hrest hchain (by omega) (Nat.le_refl _)

theorem Closes.ends {rest : Text} (h : Closes rest) : Ends rest :=
  fun c hc => .inr (h c hc)

theorem alternatives_of_closes {rest : Text} (h : Closes rest) (bound : Nat) (list : SelectorList) :
    alternatives inner bound list rest = .ok (list, rest) := by
  cases bound with
  | zero => rfl
  | succ bound =>
    rw [alternatives, skipBlank_of_stops h.ends.stops.1]
    split
    · exact absurd (h ',' rfl) (by decide)
    · rfl

theorem alternatives_comma (bound : Nat) (list : SelectorList) (t : Text) :
    alternatives inner (bound + 1) list (',' :: t) = (do
      let (next, rest) ← complex inner t
      alternatives inner bound (list ++ [next]) rest) := by
  rw [alternatives, skipBlank_of_stops (stops_cons.mpr rfl)]
  rfl

theorem ends_comma (t : Text) : Ends (',' :: t) := by
  simp [Ends]

theorem alternatives_complete (hinner : inner.CompleteBelow size) {rest : Text}
    (hrest : Closes rest) {text : Text} {more : SelectorList} :
    SpellsList text more → text.length ≤ size → ∀ {bound : Nat}, text.length ≤ bound →
      ∀ list, alternatives inner (bound + 1) list (',' :: (text ++ rest)) = .ok (list ++ more, rest)
  | .one hbefore h hafter => by
    intro hsize bound hbound list
    simp only [List.length_append] at hsize
    rw [alternatives_comma, List.append_assoc, List.append_assoc,
      complex_complete hinner hbefore h (by omega) hafter hrest.ends, ok_bind]
    exact alternatives_of_closes hrest bound _
  | .more hbefore h hafter hmore => by
    intro hsize bound hbound list
    simp only [List.length_append, List.length_cons] at hsize hbound
    obtain ⟨bound, rfl⟩ : ∃ n, bound = n + 1 := ⟨bound - 1, by omega⟩
    simp only [List.append_assoc, List.cons_append]
    rw [alternatives_comma, complex_complete hinner hbefore h (by omega) hafter (ends_comma _),
      ok_bind]
    dsimp only
    rw [alternatives_complete hinner hrest hmore (by omega) (by omega)]
    simp

theorem list_complete (hinner : inner.CompleteBelow size) :
    ListReader.CompleteBelow (list inner) (size + 1) := by
  intro text read h hsize rest hrest
  unfold list
  cases h with
  | one hbefore h hafter =>
    simp only [List.length_append] at hsize
    rw [List.append_assoc, List.append_assoc,
      complex_complete hinner hbefore h (by omega) hafter hrest.ends, ok_bind]
    exact alternatives_of_closes hrest _ _
  | more hbefore h hafter hmore =>
    simp only [List.length_append, List.length_cons] at hsize
    simp only [List.append_assoc, List.cons_append]
    rw [complex_complete hinner hbefore h (by omega) hafter (ends_comma _), ok_bind]
    dsimp only
    rw [List.length_cons]
    refine alternatives_complete hinner hrest hmore (by omega) ?_ _
    rw [List.length_append]
    omega

/-- **Completeness.**  A list is read to its end, when there are more levels than characters.  What
stands in parentheses is shorter than the text around it, so one level less is enough for it. -/
theorem listWithin_complete (bound : Nat) : ListReader.CompleteBelow (listWithin bound) bound := by
  induction bound with
  | zero =>
    intro text list _ hsize
    cases hsize
  | succ bound ih => exact list_complete ih

/-- **The reader reads the grammar**, by `listWithin_sound` and `listWithin_complete`. -/
theorem readList_eq_ok_iff {text : Text} {list : SelectorList} :
    readList text = .ok list ↔ SpellsList text list := by
  unfold readList
  constructor
  · intro h
    split at h
    · cases h
    · next list' rest hread =>
      split at h
      · next hend =>
        cases h
        obtain ⟨taken, rfl, hlist⟩ := listWithin_sound _ hread
        obtain ⟨blanks, hblanks, hrest⟩ := exists_blanks rest
        rw [hrest, hend, List.append_nil]
        exact hlist.append_blanks hblanks
      · cases h
  · intro h
    have hcloses : Closes [] := fun _ hc => by cases hc
    have hread := listWithin_complete (text.length + 1) h (Nat.lt_succ_self _) hcloses
    rw [List.append_nil] at hread
    rw [hread]
    rfl

end SyntaxGraft.SelectorReader
