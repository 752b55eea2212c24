import SyntaxGraft.Proofs.Selector.Completeness
/-!
# Writing selectors

A selector has a canonical spelling: one blank around `>`, `~` and `+`, none in brackets, strings in
double quotes with escapes, a star where no kind is asked for, and attributes before pseudo-classes.
`SelectorList.render` writes it.  A pattern does not say how it was written, so the writer of regex
literals is a parameter.

`SelectorList.WellFormed` says which structures have a spelling: those that can be read are just the
well-formed ones, and what was written is read back (`readList_exact`).
-/

namespace SyntaxGraft

open SelectorGrammar

/-! ### Well-formed selectors -/

/-- The body and the flags make a literal for the pattern. -/
def Regex.IsLiteral (body flags : Text) (pattern : Pattern) : Prop :=
  IsRegexBody body ∧ (∀ c ∈ flags, c.isAlpha = true) ∧ Regex.compile body flags = .ok pattern

/-- The value is a string, or is what its text is read as without quotes. -/
def AttributeValue.WellFormed (value : AttributeValue) : Prop :=
  value = .quoted value.text ∨ value = .bare value.text ∧ IsBareValue value.text

/-- The value or the pattern of the test can be written. -/
def AttributeTest.WellFormed : AttributeTest → Prop
  | present => True
  | compare _ value => value.WellFormed
  | regex pattern _ => ∃ body flags, Regex.IsLiteral body flags pattern

/-- The path has names, one at least, and the test is well formed. -/
def Attribute.WellFormed (requirement : Attribute) : Prop :=
  requirement.path ≠ [] ∧ (∀ name ∈ requirement.path, IsName name.toList) ∧
    requirement.test.WellFormed

mutual

/-- All its compounds are well formed. -/
inductive Complex.WellFormed : Complex → Prop
  | compound {subject : Compound} (h : Compound.WellFormed subject) :
      Complex.WellFormed (.compound subject)
  | combined {left : Complex} {combinator : Combinator} {subject : Compound}
      (hleft : Complex.WellFormed left) (h : Compound.WellFormed subject) :
      Complex.WellFormed (.combined left combinator subject)

/-- Its kind is a name (`IsName`), and its parts are well formed. -/
inductive Compound.WellFormed : Compound → Prop
  | mk {kind : Option String} {attributes : List Attribute} {pseudos : List Pseudo}
      (hkind : ∀ name ∈ kind, IsName name.toList)
      (hattributes : ∀ requirement ∈ attributes, requirement.WellFormed)
      (hpseudos : ∀ pseudo ∈ pseudos, Pseudo.WellFormed pseudo) :
      Compound.WellFormed (.mk kind attributes pseudos)

/-- It is one of the pseudo-classes, with a position that can be written or a list that is well
formed and not empty. -/
inductive Pseudo.WellFormed : Pseudo → Prop
  | plain {word : String} {pseudo : Pseudo} (h : (word, pseudo) ∈ plainPseudos) :
      Pseudo.WellFormed pseudo
  | indexed {word : String} {make : Nat → Pseudo} {position : Nat}
      (h : (word, make) ∈ indexedPseudos) (hlow : 1 ≤ position) (hhigh : position < 2 ^ 64) :
      Pseudo.WellFormed (make position)
  | nesting {word : String} {make : SelectorList → Pseudo} {list : SelectorList}
      (h : (word, make) ∈ nestingPseudos) (hne : list ≠ [])
      (hlist : ∀ complex ∈ list, Complex.WellFormed complex) : Pseudo.WellFormed (make list)

end

/-- There is an alternative, and all are `Complex.WellFormed`. -/
def SelectorList.WellFormed (list : SelectorList) : Prop :=
  list ≠ [] ∧ ∀ complex ∈ list, complex.WellFormed

/-! ### What is spelled is well formed -/

theorem wellFormed_of_spellsPath {text : Text} {path : List String} (h : SpellsPath text path) :
    path ≠ [] ∧ ∀ name ∈ path, IsName name.toList := by
  induction h with
  | one hword => simpa using hword
  | more hword _ ih =>
    refine ⟨List.cons_ne_nil _ _, List.forall_mem_cons.mpr ⟨?_, ih.2⟩⟩
    rwa [String.toList_ofList]

theorem wellFormed_of_spellsValue {op : CompareOp} {text : Text} {test : AttributeTest}
    (h : SpellsValue op text test) : test.WellFormed := by
  cases h with
  | quoted hquote h op => exact .inl rfl
  | regex hbody hflags h negated => exact ⟨_, _, hbody, hflags, h⟩
  | bare h op => exact .inr ⟨rfl, h⟩

theorem wellFormed_of_spellsAttribute {text : Text} {requirement : Attribute}
    (h : SpellsAttribute text requirement) : requirement.WellFormed := by
  cases h with
  | present hbefore hpath hafter =>
    obtain ⟨hne, hnames⟩ := wellFormed_of_spellsPath hpath
    exact ⟨hne, hnames, trivial⟩
  | tested hbefore hpath hmiddle hgap hvalue hfollows hafter =>
    obtain ⟨hne, hnames⟩ := wellFormed_of_spellsPath hpath
    exact ⟨hne, hnames, wellFormed_of_spellsValue hvalue⟩

theorem wellFormed_of_spellsKind {text : Text} {kind : Option String} (h : SpellsKind text kind) :
    ∀ name ∈ kind, IsName name.toList := by
  cases h with
  | star => exact fun _ h => by cases h
  | nothing => exact fun _ h => by cases h
  | name h =>
    rintro _ ⟨⟩
    rwa [String.toList_ofList]
  | explicit h =>
    rintro _ ⟨⟩
    rwa [String.toList_ofList]

mutual

theorem wellFormed_of_spellsPseudo : ∀ {text : Text} {pseudo : Pseudo},
    SpellsPseudo text pseudo → pseudo.WellFormed
  | _, _, .plain h => .plain h
  | _, .(_), @SpellsPseudo.indexed _ make _ _ _ position h _ hdigits _ => by
    obtain ⟨_, _, _, hlow, hhigh⟩ := hdigits
    exact .indexed h hlow hhigh
  | _, .(_), @SpellsPseudo.nesting _ make _ list h hlist => by
    obtain ⟨hne, hwellFormed⟩ := wellFormed_of_spellsList hlist
    exact .nesting h hne hwellFormed

theorem wellFormed_of_spellsParts {text : Text} {attributes : List Attribute}
    {pseudos : List Pseudo} : SpellsParts text attributes pseudos →
      (∀ requirement ∈ attributes, requirement.WellFormed) ∧
        ∀ pseudo ∈ pseudos, pseudo.WellFormed
  | .nil => ⟨List.forall_mem_nil _, List.forall_mem_nil _⟩
  | .bracketed h hrest => by
    obtain ⟨hattributes, hpseudos⟩ := wellFormed_of_spellsParts hrest
    exact ⟨List.forall_mem_cons.mpr ⟨wellFormed_of_spellsAttribute h, hattributes⟩, hpseudos⟩
  | .pseudo h hrest => by
    obtain ⟨hattributes, hpseudos⟩ := wellFormed_of_spellsParts hrest
    exact ⟨hattributes, List.forall_mem_cons.mpr ⟨wellFormed_of_spellsPseudo h, hpseudos⟩⟩

theorem wellFormed_of_spellsCompound {text : Text} {compound : Compound} :
    SpellsCompound text compound → compound.WellFormed
  | .mk hkind hparts _ => by
    obtain ⟨hattributes, hpseudos⟩ := wellFormed_of_spellsParts hparts
    exact .mk (wellFormed_of_spellsKind hkind) hattributes hpseudos

theorem wellFormed_of_spellsChain {left whole : Complex} {text : Text} :
    SpellsChain left text whole → left.WellFormed → whole.WellFormed
  | .nil _, hleft => hleft
  | .cons _ hsubject hrest, hleft =>
    wellFormed_of_spellsChain hrest (.combined hleft (wellFormed_of_spellsCompound hsubject))

theorem wellFormed_of_spellsComplex {text : Text} {complex : Complex} :
    SpellsComplex text complex → complex.WellFormed
  | .mk hfirst hrest =>
    wellFormed_of_spellsChain hrest (.compound (wellFormed_of_spellsCompound hfirst))

/-- A list that is spelled (`SpellsList`) is well formed, by recursion on the derivation, one case
for each of the mutual relations. -/
theorem wellFormed_of_spellsList {text : Text} {list : SelectorList} :
    SpellsList text list → list ≠ [] ∧ ∀ complex ∈ list, complex.WellFormed
  | .one _ h _ =>
    ⟨List.cons_ne_nil _ _, List.forall_mem_singleton.mpr (wellFormed_of_spellsComplex h)⟩
  | .more _ h _ hrest => ⟨List.cons_ne_nil _ _, List.forall_mem_cons.mpr
      ⟨wellFormed_of_spellsComplex h, (wellFormed_of_spellsList hrest).2⟩⟩

end

/-! ### Rendering -/

/-- A writer of regex literals: body and flags. -/
abbrev RegexWriter := Regex.Pattern → Text × Text

/-- The writer finds a literal for every pattern that has one. -/
def RegexWriter.Faithful (writer : RegexWriter) : Prop :=
  ∀ {pattern : Regex.Pattern} {body flags : Text}, Regex.IsLiteral body flags pattern →
    Regex.IsLiteral (writer pattern).1 (writer pattern).2 pattern

/-- A character between double quotes, with a backslash where `SpellsQuoted` needs one. -/
def quotedChar (c : Char) : Text :=
  if c = '\n' then ['\\', 'n']
  else if c = '\t' then ['\\', 't']
  else if c = '"' ∨ c = '\\' then ['\\', c]
  else [c]

/-- A string in quotes, anything else without: numbers, `true`, `false` and `null` would be strings
in quotes. -/
def AttributeValue.render (value : AttributeValue) : Text :=
  match value.typed with
  | .str _ => '"' :: (value.text.flatMap quotedChar ++ ['"'])
  | _ => value.text

def AttributeTest.render (writer : RegexWriter) : AttributeTest → Text
  | present => []
  | compare op value => op.symbol.toList ++ value.render
  | regex pattern negated =>
    (if negated then CompareOp.ne else .eq).symbol.toList ++
      '/' :: ((writer pattern).1 ++ '/' :: (writer pattern).2)

/-- The names of a path with dots between them. -/
def renderPath : List String → Text
  | [] => []
  | [name] => name.toList
  | name :: rest => name.toList ++ '.' :: renderPath rest

/-- An attribute between its brackets. -/
def Attribute.render (writer : RegexWriter) (requirement : Attribute) : Text :=
  renderPath requirement.path ++ requirement.test.render writer

def renderKind : Option String → Text
  | none => ['*']
  | some name => name.toList

def Combinator.render : Combinator → Text
  | descendant => " ".toList
  | child => " > ".toList
  | sibling => " ~ ".toList
  | adjacent => " + ".toList

mutual

def Complex.render (writer : RegexWriter) : Complex → Text
  | .compound subject => subject.render writer
  | .combined left combinator subject =>
    left.render writer ++ (combinator.render ++ subject.render writer)

def Compound.render (writer : RegexWriter) : Compound → Text
  | .mk kind attributes pseudos =>
    renderKind kind ++
      (attributes.flatMap (fun requirement => '[' :: (requirement.render writer ++ [']'])) ++
        renderPseudos writer pseudos)

def Pseudo.render (writer : RegexWriter) : Pseudo → Text
  | .not list => "not(".toList ++ (renderList writer list ++ [')'])
  | .is list => "is(".toList ++ (renderList writer list ++ [')'])
  | .has list => "has(".toList ++ (renderList writer list ++ [')'])
  | .firstChild => "first-child".toList
  | .lastChild => "last-child".toList
  | .nthChild position => "nth-child(".toList ++ (Number.decimal position ++ [')'])
  | .nthLastChild position => "nth-last-child(".toList ++ (Number.decimal position ++ [')'])
  | .statement => "statement".toList
  | .expression => "expression".toList

/-- Pseudo-classes, each after a colon. -/
def renderPseudos (writer : RegexWriter) : List Pseudo → Text
  | [] => []
  | pseudo :: rest => ':' :: (pseudo.render writer ++ renderPseudos writer rest)

/-- Alternatives (`Complex`) with commas between them. -/
def renderList (writer : RegexWriter) : List Complex → Text
  | [] => []
  | [complex] => complex.render writer
  | complex :: rest => complex.render writer ++ ',' :: ' ' :: renderList writer rest

end

/-! ### What is rendered is spelled -/

theorem spellsQuoted_render (value : Text) : SpellsQuoted '"' (value.flatMap quotedChar) value := by
  induction value with
  | nil => exact .nil
  | cons c value ih =>
    rw [List.flatMap_cons, quotedChar]
    by_cases hn : c = '\n'
    · rw [if_pos hn, hn]
      exact .lineEnd ih
    · by_cases ht : c = '\t'
      · rw [if_neg hn, if_pos ht, ht]
        exact .tab ih
      · rw [if_neg hn, if_neg ht]
        by_cases hspecial : c = '"' ∨ c = '\\'
        · rw [if_pos hspecial]
          rcases hspecial with rfl | rfl
          · exact .escaped (by decide) (by decide) ih
          · exact .escaped (by decide) (by decide) ih
        · rw [if_neg hspecial]
          rw [not_or] at hspecial
          exact .plain hspecial.1 hspecial.2 ih

/-- A value without quotes that is read as a string is the same as one in quotes.  So `render` may
always quote strings, however they were written. -/
theorem bare_eq_quoted {text : Text} {read : String}
    (h : (AttributeValue.bare text).typed = .str read) :
    AttributeValue.bare text = .quoted text := by
  have htyped : (AttributeValue.bare text).typed = .str (String.ofList text) := by
    unfold AttributeValue.bare at h ⊢
    dsimp only at h ⊢
    split at h
    · cases h
    · next htrue =>
      split at h
      · cases h
      · next hfalse =>
        split at h
        · cases h
        · next hnull =>
          rw [if_neg htrue, if_neg hfalse, if_neg hnull]
          split at h
          · next hnumeric =>
            rw [if_pos hnumeric]
            cases hfloat : Number.float? text with
            | none => rfl
            | some value =>
              rw [hfloat] at h
              cases h
          · next hnumeric => rw [if_neg hnumeric]
  show AttributeValue.mk text (AttributeValue.bare text).typed = _
  rw [htyped]
  rfl

/-- What begins with the sign of an operator is no number, so a value that `render` leaves without
quotes never begins with `=`. -/
theorem typed_bare_equals (t : Text) :
    (AttributeValue.bare ('=' :: t)).typed = .str (String.ofList ('=' :: t)) := by
  simp [AttributeValue.bare, AttributeValue.looksNumeric]

theorem spellsValue_render {value : AttributeValue} (h : value.WellFormed) (op : CompareOp) :
    SpellsValue op value.render (.compare op value) ∧ FollowsOperator op value.render := by
  have hquoted : ∀ text : Text, SpellsValue op (AttributeValue.quoted text).render
        (.compare op (.quoted text)) ∧ FollowsOperator op (AttributeValue.quoted text).render := by
    intro text
    exact ⟨.quoted (.inl rfl) (spellsQuoted_render text) op,
      by simp [FollowsOperator, AttributeValue.render, AttributeValue.quoted]⟩
  -- A value that was bare is written in quotes if it is a string, and bare if it is not.
  rcases h with h | ⟨h, hbare⟩
  · rw [h]
    exact hquoted value.text
  · rw [h]
    generalize value.text = text at hbare
    by_cases hstring : ∃ read, (AttributeValue.bare text).typed = .str read
    · obtain ⟨read, hread⟩ := hstring
      rw [bare_eq_quoted hread]
      exact hquoted text
    · have hrender : (AttributeValue.bare text).render = text := by
        unfold AttributeValue.render
        split
        · next read hread => exact absurd ⟨read, hread⟩ hstring
        · rfl
      rw [hrender]
      refine ⟨.bare hbare op, ?_⟩
      rintro _ c hc rfl
      obtain ⟨tail, rfl⟩ := List.head?_eq_some_iff.mp hc
      exact hstring ⟨_, typed_bare_equals tail⟩

theorem spellsPath_render {path : List String} (hne : path ≠ [])
    (hnames : ∀ name ∈ path, IsName name.toList) : SpellsPath (renderPath path) path := by
  have hone : ∀ {name : String}, IsName name.toList → SpellsPath name.toList [name] := by
    intro name h
    simpa using SpellsPath.one h
  induction path with
  | nil => exact absurd rfl hne
  | cons name rest ih =>
    obtain ⟨hname, hrest⟩ := List.forall_mem_cons.mp hnames
    cases rest with
    | nil => exact hone hname
    | cons next rest =>
      have hmore := SpellsPath.more hname (ih (List.cons_ne_nil _ _) hrest)
      rwa [String.ofList_toList] at hmore

theorem spellsAttribute_render {writer : RegexWriter} (hwriter : writer.Faithful)
    {requirement : Attribute} (h : requirement.WellFormed) :
    SpellsAttribute (requirement.render writer) requirement := by
  obtain ⟨path, test⟩ := requirement
  obtain ⟨hne, hnames, htest⟩ := h
  have hpath := spellsPath_render hne hnames
  have htested : ∀ {op : CompareOp} {value : Text}, SpellsValue op value test →
      FollowsOperator op value →
        SpellsAttribute (renderPath path ++ (op.symbol.toList ++ value)) ⟨path, test⟩ := by
    intro op value hvalue hfollows
    have := SpellsAttribute.tested isBlanks_nil hpath isBlanks_nil isBlanks_nil hvalue hfollows
      isBlanks_nil
    simpa using this
  unfold Attribute.render
  cases test with
  | present =>
    have := SpellsAttribute.present isBlanks_nil hpath isBlanks_nil
    simpa [AttributeTest.render] using this
  | compare op value =>
    obtain ⟨hvalue, hfollows⟩ := spellsValue_render htest op
    exact htested hvalue hfollows
  | regex pattern negated =>
    obtain ⟨_, _, hliteral⟩ := htest
    obtain ⟨hbody, hflags, hcompile⟩ := hwriter hliteral
    exact htested (.regex hbody hflags hcompile negated) (by simp [FollowsOperator])

theorem spellsKind_render {kind : Option String} (h : ∀ name ∈ kind, IsName name.toList) :
    SpellsKind (renderKind kind) kind ∧ renderKind kind ≠ [] := by
  cases kind with
  | none => exact ⟨.star, List.cons_ne_nil _ _⟩
  | some name =>
    have hname := h name rfl
    refine ⟨?_, hname.1⟩
    simpa [renderKind] using SpellsKind.name hname

theorem spellsCombinator_render (combinator : Combinator) :
    SpellsCombinator combinator.render combinator := by
  have hblank : IsBlanks [' '] := by simp [IsBlanks, isBlank]
  cases combinator with
  | descendant => exact .descendant (List.cons_ne_nil _ _) hblank
  | child => exact .child hblank hblank
  | sibling => exact .sibling hblank hblank
  | adjacent => exact .adjacent hblank hblank

theorem spellsIndex_render {position : Nat} (hlow : 1 ≤ position) (hhigh : position < 2 ^ 64) :
    SpellsIndex (Number.decimal position) position :=
  ⟨Nat.toDigits_ne_nil, fun _ => Nat.isDigit_of_mem_toDigits (by decide) (by decide),
    Nat.ofDigitChars_ten_toDigits.symm, hlow, hhigh⟩

/-- A chain goes on at its end.  `SpellsChain` is built from the front and `render` from the back,
so the rest of the chain has to be gone through. -/
theorem spellsChain_snoc {combinator : Combinator} {join subjectText : Text} {subject : Compound}
    (hjoin : SpellsCombinator join combinator) (hsubject : SpellsCompound subjectText subject)
    {first left : Complex} {text : Text} : SpellsChain first text left →
      SpellsChain first (text ++ (join ++ subjectText)) (.combined left combinator subject)
  | .nil _ => by
    have := SpellsChain.cons hjoin hsubject (.nil (.combined first combinator subject))
    simpa using this
  | .cons hjoin' hsubject' hrest => by
    rw [List.append_assoc, List.append_assoc]
    exact .cons hjoin' hsubject' (spellsChain_snoc hjoin hsubject hrest)

theorem spellsComplex_snoc {combinator : Combinator} {join subjectText : Text}
    {subject : Compound} (hjoin : SpellsCombinator join combinator)
    (hsubject : SpellsCompound subjectText subject) {left : Complex} {text : Text} :
    SpellsComplex text left →
      SpellsComplex (text ++ (join ++ subjectText)) (.combined left combinator subject)
  | .mk hfirst hchain => by
    rw [List.append_assoc]
    exact .mk hfirst (spellsChain_snoc hjoin hsubject hchain)

theorem spellsParts_render {writer : RegexWriter} (hwriter : writer.Faithful)
    {attributes : List Attribute} (hattributes : ∀ requirement ∈ attributes, requirement.WellFormed)
    {pseudos : List Pseudo}
    (hpseudos : ∀ pseudo ∈ pseudos, SpellsPseudo (pseudo.render writer) pseudo) :
    SpellsParts (attributes.flatMap (fun requirement => '[' :: (requirement.render writer ++ [']']))
      ++ renderPseudos writer pseudos) attributes pseudos := by
  have hrest : SpellsParts (renderPseudos writer pseudos) [] pseudos := by
    induction pseudos with
    | nil => exact .nil
    | cons pseudo rest ih =>
      obtain ⟨hpseudo, hrest⟩ := List.forall_mem_cons.mp hpseudos
      exact .pseudo hpseudo (ih hrest)
  induction attributes with
  | nil => exact hrest
  | cons requirement attributes ih =>
    obtain ⟨hfirst, hothers⟩ := List.forall_mem_cons.mp hattributes
    have := SpellsParts.bracketed (spellsAttribute_render hwriter hfirst) (ih hothers)
    simpa using this

theorem spellsList_render {writer : RegexWriter} {list : SelectorList} (hne : list ≠ [])
    (h : ∀ complex ∈ list, SpellsComplex (complex.render writer) complex) {blanks : Text}
    (hblanks : IsBlanks blanks) : SpellsList (blanks ++ renderList writer list) list := by
  induction list generalizing blanks with
  | nil => exact absurd rfl hne
  | cons complex rest ih =>
    obtain ⟨hcomplex, hrest⟩ := List.forall_mem_cons.mp h
    cases rest with
    | nil =>
      have := SpellsList.one hblanks hcomplex isBlanks_nil
      simpa [renderList] using this
    | cons next rest =>
      have hblank : IsBlanks [' '] := by simp [IsBlanks, isBlank]
      have := SpellsList.more hblanks hcomplex isBlanks_nil
        (ih (List.cons_ne_nil _ _) hrest hblank)
      simpa [renderList] using this

mutual

theorem Complex.WellFormed.spells {writer : RegexWriter} (hwriter : writer.Faithful)
    {complex : Complex} : complex.WellFormed → SpellsComplex (complex.render writer) complex
  | .compound h => by
    have := SpellsComplex.mk (h.spells hwriter) (.nil _)
    rw [List.append_nil] at this
    exact this
  | .combined hleft h =>
    spellsComplex_snoc (spellsCombinator_render _) (h.spells hwriter) (hleft.spells hwriter)

theorem Compound.WellFormed.spells {writer : RegexWriter} (hwriter : writer.Faithful)
    {compound : Compound} : compound.WellFormed → SpellsCompound (compound.render writer) compound
  | .mk hkind hattributes hpseudos => by
    obtain ⟨hkind, hne⟩ := spellsKind_render hkind
    refine .mk hkind (spellsParts_render hwriter hattributes fun pseudo hpseudo => ?_) ?_
    · exact (hpseudos pseudo hpseudo).spells hwriter
    · exact fun hnil => hne (List.append_eq_nil_iff.mp hnil).1

theorem Pseudo.WellFormed.spells {writer : RegexWriter} (hwriter : writer.Faithful) :
    ∀ {pseudo : Pseudo}, pseudo.WellFormed → SpellsPseudo (pseudo.render writer) pseudo
  | _, @Pseudo.WellFormed.plain word pseudo h => by
    have hword : pseudo.render writer = word.toList := by
      simp only [plainPseudos, List.mem_cons, Prod.mk.injEq, List.not_mem_nil, or_false] at h
      rcases h with ⟨rfl, rfl⟩ | ⟨rfl, rfl⟩ | ⟨rfl, rfl⟩ | ⟨rfl, rfl⟩ <;> rfl
    rw [hword]
    exact .plain h
  | .(_), @Pseudo.WellFormed.indexed word make position h hlow hhigh => by
    have hindex := spellsIndex_render hlow hhigh
    have hword : (make position).render writer =
        word.toList ++ '(' :: (Number.decimal position ++ [')']) := by
      simp only [indexedPseudos, List.mem_cons, Prod.mk.injEq, List.not_mem_nil, or_false] at h
      rcases h with ⟨rfl, rfl⟩ | ⟨rfl, rfl⟩ <;> rfl
    rw [hword]
    exact .indexed h isBlanks_nil hindex isBlanks_nil
  | .(_), @Pseudo.WellFormed.nesting word make list h hne hlist => by
    have hspells : SpellsList (renderList writer list) list :=
      spellsList_render hne (fun complex hcomplex => (hlist complex hcomplex).spells hwriter)
        isBlanks_nil
    -- There are two words for one of the pseudo-classes, and one of them is written.
    obtain ⟨written, hwritten, hword⟩ : ∃ written, (written, make) ∈ nestingPseudos ∧
        (make list).render writer = written.toList ++ '(' :: (renderList writer list ++ [')']) := by
      simp only [nestingPseudos, List.mem_cons, Prod.mk.injEq, List.not_mem_nil, or_false] at h
      rcases h with ⟨rfl, rfl⟩ | ⟨rfl, rfl⟩ | ⟨rfl, rfl⟩ | ⟨rfl, rfl⟩
      · exact ⟨"not", by simp [nestingPseudos], rfl⟩
      · exact ⟨"is", by simp [nestingPseudos], rfl⟩
      · exact ⟨"is", by simp [nestingPseudos], rfl⟩
      · exact ⟨"has", by simp [nestingPseudos], rfl⟩
    rw [hword]
    exact .nesting hwritten hspells

end

/-! ### Reading and writing -/

/-- The canonical spelling of a list, which `SelectorReader.readList` reads. -/
def SelectorList.render (writer : RegexWriter) (list : SelectorList) : Text :=
  renderList writer list

theorem SelectorList.WellFormed.spells {writer : RegexWriter} (hwriter : writer.Faithful)
    {list : SelectorList} (h : list.WellFormed) : SpellsList (list.render writer) list := by
  obtain ⟨hne, hcomplexes⟩ := h
  exact spellsList_render hne (fun complex hcomplex => (hcomplexes complex hcomplex).spells hwriter)
    isBlanks_nil

/-- There is a faithful writer: by choice, since a pattern does not say how it was written. -/
theorem RegexWriter.exists_faithful : ∃ writer : RegexWriter, writer.Faithful := by
  classical
  refine ⟨fun pattern => if h : ∃ literal : Text × Text, Regex.IsLiteral literal.1 literal.2 pattern
    then h.choose else ([], []), ?_⟩
  intro pattern body flags hliteral
  have hexists : ∃ literal : Text × Text, Regex.IsLiteral literal.1 literal.2 pattern :=
    ⟨(body, flags), hliteral⟩
  dsimp only
  rw [dif_pos hexists]
  exact hexists.choose_spec

/-- **The reader accepts exactly its grammar.**  A text is read as a list if and only if it spells
the list.  The lists that are read are the well-formed ones, and the canonical spelling of a
well-formed list is read as that list. -/
theorem SelectorReader.readList_exact :
    (∀ text list, readList text = .ok list ↔ SpellsList text list) ∧
      (∀ text list, readList text = .ok list → SelectorList.WellFormed list) ∧
        ∀ writer : RegexWriter, writer.Faithful → ∀ list, SelectorList.WellFormed list →
          readList (SelectorList.render writer list) = .ok list := by
  refine ⟨fun text list => readList_eq_ok_iff, ?_, ?_⟩
  · intro text list h
    exact wellFormed_of_spellsList (readList_eq_ok_iff.mp h)
  · intro writer hwriter list h
    exact readList_eq_ok_iff.mpr (h.spells hwriter)

/-- Two compounds, with a quoted value and a nested list. -/
def callOfNeither : SelectorList :=
  [.combined
    (.compound (.mk (some "CallExpression")
      [⟨["function"], .compare .eq (.quoted "a\"b".toList)⟩] []))
    .child
    (.mk none [] [.not [.compound (.mk (some "Number") [] []),
      .compound (.mk (some "String") [] [])]])]

theorem wellFormed_callOfNeither : callOfNeither.WellFormed := by
  have hname : ∀ name ∈ ["CallExpression", "function", "Number", "String"], IsName name.toList := by
    decide
  have hkind : ∀ name ∈ ["Number", "String"],
      (Complex.compound (.mk (some name) [] [])).WellFormed := by
    intro name hmem
    refine .compound (.mk ?_ (List.forall_mem_nil _) (List.forall_mem_nil _))
    rintro _ ⟨⟩
    exact hname name (List.mem_cons_of_mem _ (List.mem_cons_of_mem _ hmem))
  refine ⟨List.cons_ne_nil _ _, List.forall_mem_singleton.mpr (.combined (.compound ?_) ?_)⟩
  · refine .mk ?_ (List.forall_mem_singleton.mpr ?_) (List.forall_mem_nil _)
    · rintro _ ⟨⟩
      exact hname _ (by simp)
    · exact ⟨List.cons_ne_nil _ _, List.forall_mem_singleton.mpr (hname _ (by simp)), .inl rfl⟩
  · refine .mk (fun _ h => by cases h) (List.forall_mem_nil _) (List.forall_mem_singleton.mpr ?_)
    refine .nesting (show ("not", Pseudo.not) ∈ nestingPseudos by simp [nestingPseudos])
      (List.cons_ne_nil _ _) ?_
    simp only [List.forall_mem_cons]
    exact ⟨hkind _ (by simp), hkind _ (by simp), List.forall_mem_nil _⟩

theorem SelectorReader.readList_exact_callOfNeither :
    readList "CallExpression[function=\"a\\\"b\"] > *:not(Number, String)".toList
      = .ok callOfNeither := by
  obtain ⟨writer, hwriter⟩ := RegexWriter.exists_faithful
  have hrender : callOfNeither.render writer
      = "CallExpression[function=\"a\\\"b\"] > *:not(Number, String)".toList := rfl
  rw [← hrender]
  exact readList_exact.2.2 writer hwriter callOfNeither wellFormed_callOfNeither

end SyntaxGraft
