import SyntaxGraft.Proofs.Selector.Completeness
import SyntaxGraft.Proofs.Selector.Walk
/-!
# Reading a selector goes forward

On every text the walk over a selector comes to an end, with the selector or the error that the text
is read as (`SelectorReader.readList_progresses`).  Its cursor stands at boundaries of the text
only, never goes back, and takes a character in every round; an error that names a place names one
that is in the text.

There is one lemma for each walk, that it follows the reader of its name.  Loops are followed by
induction on the bound of the reader, which is as long as what is ahead.  That a round takes
something comes from the grammar: what a reader takes spells what it gives (`Soundness`), and no
compound and no list is spelled by nothing.  A nested list is read behind a parenthesis, on a text
that is shorter, so a walk of more levels than the text has characters is deep enough
(`FollowsBelow`).
-/

namespace SyntaxGraft

open SelectorReader (Fault ListReader)

namespace SelectorWalk

open Walk

variable {text t : Text}

/-! ### Names and values -/

theorem follows_someName (what : Expectation) :
    (someName what).Follows text t (SelectorReader.someName what t) := by
  have hparts := List.takeWhile_append_dropWhile (p := SelectorReader.isNameChar) (l := t)
  refine (follows_scan _).andThen ?_
  unfold SelectorReader.someName SelectorReader.name
  cases hword : t.takeWhile SelectorReader.isNameChar with
  | nil =>
    rw [hword, List.nil_append] at hparts
    rw [hparts]
    exact follows_missing what
  | cons c word => exact follows_pure _

/-- `fieldPath` is a name, and `fieldPath` again behind a dot.  The reader goes character by
character and the walk name by name, so this is the form in which they can be compared. -/
theorem fieldPath_eq (t : Text) :
    SelectorReader.fieldPath [] t = (do
      let (word, rest) ← SelectorReader.someName .attributeName t
      match rest with
      | '.' :: rest => do
        let (names, rest) ← SelectorReader.fieldPath [] rest
        return (String.ofList word :: names, rest)
      | rest => .ok ([String.ofList word], rest)) := by
  obtain ⟨word, rest, hname⟩ : ∃ word rest, SelectorReader.name t = (word, rest) := ⟨_, _, rfl⟩
  obtain ⟨rfl, hword⟩ := SelectorReader.name_spec hname
  -- No character of names is left, so the reader ends the word where the name ends.
  have hstops : SelectorReader.Stops SelectorReader.isNameChar rest := by
    have hrest : (word ++ rest).dropWhile SelectorReader.isNameChar = rest :=
      (Prod.mk.inj hname).2
    have hhead := List.head?_dropWhile_not SelectorReader.isNameChar (word ++ rest)
    rw [hrest] at hhead
    intro c hc
    rw [hc] at hhead
    simpa using hhead
  rw [SelectorReader.fieldPath_run hword, List.append_nil, SelectorReader.someName, hname]
  cases word with
  | nil =>
    cases rest with
    | nil => rfl
    | cons c rest =>
      rw [SelectorReader.fieldPath, SelectorReader.stops_cons.mp hstops]
      rfl
  | cons first word =>
    have hempty : ¬ (first :: word).reverse.isEmpty = true := by simp
    rw [SelectorReader.ok_bind]
    cases rest with
    | nil =>
      rw [SelectorReader.fieldPath, if_neg hempty, List.reverse_reverse]
    | cons c rest =>
      rw [SelectorReader.fieldPath, SelectorReader.stops_cons.mp hstops,
        if_neg Bool.false_ne_true, if_neg hempty, List.reverse_reverse]
      by_cases hc : c = '.'
      · subst hc
        rfl
      · rw [if_neg hc]
        dsimp only
        split
        · next heq => exact absurd (List.cons.inj heq).1 hc
        · rfl

theorem follows_fieldPathWithin {bound : Nat} (hbound : t.length < bound) :
    (fieldPathWithin bound).Follows text t (SelectorReader.fieldPath [] t) := by
  induction bound generalizing t with
  | zero => omega
  | succ bound ih =>
    rw [fieldPath_eq]
    refine (follows_someName .attributeName).bind ?_
    intro word rest hread
    obtain ⟨-, rfl⟩ := SelectorReader.someName_sound hread
    dsimp only
    split
    · next rest =>
      have hrest : rest.length < bound := by
        simp only [List.length_append, List.length_cons] at hbound
        omega
      refine (follows_eat_self '.' rest).andThen ((ih hrest).bind ?_)
      exact fun names rest _ => follows_pure _
    · next hdot => exact (follows_eat_other hdot).andThen (follows_pure _)

theorem follows_quotedWithin {quote : Char} (hquote : quote ≠ '\\') {bound : Nat}
    (hbound : t.length < bound) :
    (quotedWithin quote bound).Follows text t (SelectorReader.quotedValue quote t) := by
  fun_induction SelectorReader.quotedValue quote t generalizing bound with
  | case1 =>
    obtain ⟨bound, rfl⟩ := Nat.exists_eq_add_one.mpr (Nat.zero_lt_of_lt hbound)
    exact follows_next_nil.andThen (follows_missing _)
  | case2 =>
    obtain ⟨bound, rfl⟩ := Nat.exists_eq_add_one.mpr (Nat.zero_lt_of_lt hbound)
    refine (follows_next_cons '\\' []).andThen ?_
    dsimp only
    rw [if_neg hquote.symm, if_pos rfl]
    exact follows_next_nil.andThen (follows_missing _)
  | case3 c t ih =>
    obtain ⟨bound, rfl⟩ := Nat.exists_eq_add_one.mpr (Nat.zero_lt_of_lt hbound)
    refine (follows_next_cons '\\' (c :: t)).andThen ?_
    dsimp only
    rw [if_neg hquote.symm, if_pos rfl]
    have hrest : t.length < bound := by
      simp only [List.length_cons] at hbound
      omega
    exact (follows_next_cons c t).andThen ((ih hrest).bind fun value rest _ => follows_pure _)
  | case4 t _ _ =>
    obtain ⟨bound, rfl⟩ := Nat.exists_eq_add_one.mpr (Nat.zero_lt_of_lt hbound)
    refine (follows_next_cons _ t).andThen ?_
    dsimp only
    rw [if_pos rfl]
    exact follows_pure []
  | case5 c t hend hescape hc ih =>
    obtain ⟨bound, rfl⟩ := Nat.exists_eq_add_one.mpr (Nat.zero_lt_of_lt hbound)
    -- An escape, whole or cut off by the end, is a case of its own.
    have hslash : c ≠ '\\' := by
      intro hslash
      cases t with
      | nil => exact hend hslash rfl
      | cons d t => exact hescape d t hslash rfl
    refine (follows_next_cons c t).andThen ?_
    dsimp only
    rw [if_neg hc, if_neg hslash]
    exact (ih (Nat.lt_of_succ_lt_succ hbound)).bind fun value rest _ => follows_pure _

theorem follows_bareValue : bareValue.Follows text t (SelectorReader.bareValue t) := by
  refine (follows_scan _).andThen ?_
  unfold SelectorReader.bareValue
  cases Text.trimEnd (t.takeWhile (· ≠ ']')) with
  | nil => exact follows_missing _
  | cons c value => exact follows_pure _

/-- `firstOperator` takes the first of the operators that stands at the cursor. -/
theorem follows_firstOperator {before after : List CompareOp} {op : CompareOp} {rest : Text}
    (hbefore : ∀ earlier ∈ before, ¬ earlier.symbol.toList <+: op.symbol.toList ++ rest) :
    (firstOperator (before ++ op :: after)).Follows text (op.symbol.toList ++ rest)
      (.ok (op, rest)) := by
  induction before with
  | nil => exact (follows_eatAll_self _ rest).andThen (follows_pure op)
  | cons earlier before ih =>
    obtain ⟨hearlier, hbefore⟩ := List.forall_mem_cons.mp hbefore
    exact (follows_eatAll_other hearlier).andThen (ih hbefore)

/-- Where none of the operators stands, an operator is lacking (`Expectation.operator`). -/
theorem follows_firstOperator_none {ops : List CompareOp}
    (h : ∀ op ∈ ops, ¬ op.symbol.toList <+: t) :
    (firstOperator ops).Follows text t (.error (.expected .operator t)) := by
  induction ops with
  | nil => exact follows_missing _
  | cons op ops ih =>
    obtain ⟨hop, hops⟩ := List.forall_mem_cons.mp h
    exact (follows_eatAll_other hop).andThen (ih hops)

theorem follows_operator : operator.Follows text t (SelectorReader.operator t) := by
  -- `<` and `>` are read only where the longer operators with `=` do not stand.
  have hshort : ∀ {rest : Text}, (∀ tail, rest = '=' :: tail → False) → ¬ ['='] <+: rest := by
    rintro _ hlonger ⟨tail, rfl⟩
    exact hlonger tail rfl
  unfold SelectorReader.operator
  split
  · next rest =>
    exact @follows_firstOperator text [] [.le, .ge, .eq, .lt, .gt] .ne rest (by simp)
  · next rest =>
    exact @follows_firstOperator text [.ne] [.ge, .eq, .lt, .gt] .le rest
      (by simp [CompareOp.symbol])
  · next rest =>
    exact @follows_firstOperator text [.ne, .le] [.eq, .lt, .gt] .ge rest
      (by simp [CompareOp.symbol])
  · next rest =>
    exact @follows_firstOperator text [.ne, .le, .ge] [.lt, .gt] .eq rest
      (by simp [CompareOp.symbol])
  · next rest hlonger =>
    exact @follows_firstOperator text [.ne, .le, .ge, .eq] [.gt] .lt rest
      (by simp [CompareOp.symbol, hshort hlonger])
  · next rest hlonger =>
    exact @follows_firstOperator text [.ne, .le, .ge, .eq, .lt] [] .gt rest
      (by simp [CompareOp.symbol, hshort hlonger])
  · next hne hle hge heq hlt hgt =>
    refine follows_firstOperator_none ?_
    rintro op - ⟨rest, rfl⟩
    cases op with
    | eq => exact heq rest rfl
    | ne => exact hne rest rfl
    | lt => exact hlt rest rfl
    | le => exact hle rest rfl
    | gt => exact hgt rest rfl
    | ge => exact hge rest rfl

/-! ### Attributes -/

theorem follows_regexTest (op : CompareOp) :
    (regexTest op).Follows text t (SelectorReader.regexTest op t) := by
  unfold regexTest SelectorReader.regexTest
  cases hop : SelectorReader.regexNegated op with
  | error fault =>
    obtain rfl : fault = .regexOperator op := by
      cases op <;> cases hop <;> rfl
    exact follows_whole.andThen (follows_throw (.regexOperator op) trivial)
  | ok negated =>
    refine follows_ahead.andThen ?_
    rw [SelectorReader.ok_bind]
    cases hsplit : Regex.splitBody? t with
    | none => exact follows_missing .closingSlash
    | some parts =>
      obtain ⟨body, rest⟩ := parts
      obtain ⟨rfl, -⟩ := SelectorReader.splitBody?_sound hsplit
      have hmove := @follows_moveTo text (body ++ ['/']) rest
      rw [List.append_assoc, List.singleton_append] at hmove
      refine follows_whole.andThen (hmove.andThen ((follows_scan _).andThen ?_))
      dsimp only
      cases Regex.compile body (rest.takeWhile Char.isAlpha) with
      | error refusal => exact follows_throw (.invalidRegex body _ refusal) trivial
      | ok pattern => exact follows_pure _

theorem follows_quotedTest (op : CompareOp) {quote : Char} (hquote : quote ≠ '\\') :
    (quotedTest op quote).Follows text t (do
      let (value, rest) ← SelectorReader.quotedValue quote t
      return (.compare op (.quoted value), rest)) := by
  have hvalue : (bounded (quotedWithin quote)).Follows text t
      (SelectorReader.quotedValue quote t) :=
    follows_bounded fun _ hbound => follows_quotedWithin hquote hbound
  exact hvalue.bind fun value rest _ => follows_pure _

theorem follows_valueTest (op : CompareOp) :
    (valueTest op).Follows text t (SelectorReader.valueTest op t) := by
  unfold SelectorReader.valueTest
  split
  · next rest =>
    exact follows_peek.andThen ((follows_next_cons '/' rest).andThen (follows_regexTest op))
  · next rest =>
    have hquoted := @follows_quotedTest text rest op '"' (by decide)
    exact follows_peek.andThen ((follows_next_cons '"' rest).andThen hquoted)
  · next rest =>
    have hquoted := @follows_quotedTest text rest op '\'' (by decide)
    exact follows_peek.andThen ((follows_next_cons '\'' rest).andThen hquoted)
  · next hslash hdouble hsingle =>
    refine follows_peek.andThen ?_
    split
    · next hhead => exact absurd hhead (head?_ne_some hslash)
    · next hhead => exact absurd hhead (head?_ne_some hdouble)
    · next hhead => exact absurd hhead (head?_ne_some hsingle)
    · exact follows_bareValue.bind fun value rest _ => follows_pure _

theorem follows_bracketed : bracketed.Follows text t (SelectorReader.bracketed t) := by
  have hpath : ∀ {t : Text}, (bounded fieldPathWithin).Follows text t
      (SelectorReader.fieldPath [] t) :=
    follows_bounded fun _ hbound => follows_fieldPathWithin hbound
  unfold SelectorReader.bracketed
  refine follows_skipBlank.andThen (hpath.bind ?_)
  intro path rest _
  refine follows_skipBlank.andThen ?_
  dsimp only
  split
  · next rest hclose =>
    rw [hclose]
    exact (follows_eat_self ']' rest).andThen (follows_pure _)
  · next hopen =>
    refine (follows_eat_other hopen).andThen ?_
    rw [if_neg Bool.false_ne_true]
    refine follows_operator.bind fun op rest _ => follows_skipBlank.andThen ?_
    refine (follows_valueTest op).bind fun test rest _ => follows_skipBlank.andThen ?_
    exact Follows.expect fun rest _ => follows_pure _

/-! ### Pseudo-classes and kinds -/

theorem follows_parenIndex : parenIndex.Follows text t (SelectorReader.parenIndex t) := by
  unfold SelectorReader.parenIndex
  refine Follows.expect fun inside _ => follows_skipBlank.andThen ?_
  -- The error of a bad position points to where its digits began.
  refine Follows.of_suffix fun hsuffix => follows_here.andThen ((follows_scan _).andThen ?_)
  dsimp only
  cases (Number.word? 10 ((Text.skipBlank inside).takeWhile Char.isDigit)).filter (1 ≤ ·) with
  | none => exact follows_missingAt .positiveIndex hsuffix
  | some position =>
    refine follows_skipBlank.andThen ?_
    exact Follows.expect fun rest _ => follows_pure position

theorem follows_kind : kind.Follows text t (SelectorReader.kind t) := by
  unfold SelectorReader.kind
  split
  · next rest => exact (follows_eat_self '*' rest).andThen (follows_pure none)
  · next hstar =>
    refine (follows_eat_other hstar).andThen ?_
    rw [if_neg Bool.false_ne_true]
    refine (follows_scan _).andThen ?_
    unfold SelectorReader.name
    generalize t.takeWhile SelectorReader.isNameChar = word
    generalize t.dropWhile SelectorReader.isNameChar = rest
    cases word with
    | nil => exact follows_pure none
    | cons c word =>
      dsimp only [List.isEmpty_cons]
      rw [if_neg Bool.false_ne_true]
      by_cases hkind : c :: word = "Kind".toList
      · rw [if_pos hkind]
        split
        · next after =>
          rw [if_pos hkind]
          refine (follows_eat_self '=' after).andThen ?_
          exact (follows_someName _).bind fun word rest _ => follows_pure _
        · next hequals => exact (follows_eat_other hequals).andThen (follows_pure _)
      · rw [if_neg hkind]
        split
        · rw [if_neg hkind]
          exact follows_pure _
        · exact follows_pure _

/-! ### Chains -/

/-- What joins the next compound of a chain, with the text from that compound on; `spaced` says that
blanks stand before. -/
def combinatorAt (spaced : Bool) : Text → Except Fault (Option Combinator × Text)
  | [] => .ok (none, [])
  | ',' :: rest => .ok (none, ',' :: rest)
  | ')' :: rest => .ok (none, ')' :: rest)
  | '>' :: rest => .ok (some .child, Text.skipBlank rest)
  | '~' :: rest => .ok (some .sibling, Text.skipBlank rest)
  | '+' :: rest => .ok (some .adjacent, Text.skipBlank rest)
  | found :: rest =>
    if spaced then .ok (some .descendant, found :: rest) else .error (.unexpected found rest)

/-- What joins the next compound of a chain that goes on with `t`. -/
def combinatorBefore (t : Text) : Except Fault (Option Combinator × Text) :=
  combinatorAt ((Text.skipBlank t).length < t.length) (Text.skipBlank t)

theorem chain_succ (inner : ListReader) (bound : Nat) (left : Complex) (t : Text) :
    SelectorReader.chain inner (bound + 1) left t = (do
      let (joined, rest) ← combinatorBefore t
      match joined with
      | none => .ok (left, rest)
      | some combinator => do
        let (subject, rest) ← SelectorReader.compound inner rest
        SelectorReader.chain inner bound (.combined left combinator subject) rest) := by
  rw [SelectorReader.chain, combinatorBefore]
  dsimp only
  generalize Text.skipBlank t = ahead
  split
  · rfl
  · rfl
  · rfl
  · rfl
  · rfl
  · rfl
  · next found rest hcomma hparen hchild hsibling hadjacent =>
    rw [combinatorAt]
    · by_cases hspaced : (found :: rest).length < t.length
      · rw [if_pos hspaced, if_pos (decide_eq_true hspaced)]
        rfl
      · rw [if_neg hspaced, if_neg (mt of_decide_eq_true hspaced)]
        rfl
    all_goals assumption

theorem follows_writtenCombinator (combinator : Combinator) (symbol : Char) (rest : Text) :
    (writtenCombinator combinator).Follows text (symbol :: rest)
      (.ok (some combinator, Text.skipBlank rest)) :=
  (follows_next_cons symbol rest).andThen (follows_skipBlank.andThen (follows_pure _))

theorem follows_combinatorAfter (spaced : Bool) :
    (combinatorAfter spaced).Follows text t (combinatorAt spaced t) := by
  unfold combinatorAt
  split
  · exact follows_peek.andThen (follows_pure none)
  · exact follows_peek.andThen (follows_pure none)
  · exact follows_peek.andThen (follows_pure none)
  · exact follows_peek.andThen (follows_writtenCombinator .child '>' _)
  · exact follows_peek.andThen (follows_writtenCombinator .sibling '~' _)
  · exact follows_peek.andThen (follows_writtenCombinator .adjacent '+' _)
  · next found rest hcomma hparen hchild hsibling hadjacent =>
    refine follows_peek.andThen ?_
    dsimp only [List.head?_cons]
    split
    · next h => cases h
    · next h => exact absurd (Option.some.inj h) hcomma
    · next h => exact absurd (Option.some.inj h) hparen
    · next h => exact absurd (Option.some.inj h) hchild
    · next h => exact absurd (Option.some.inj h) hsibling
    · next h => exact absurd (Option.some.inj h) hadjacent
    · next h =>
      obtain rfl := Option.some.inj h
      cases spaced with
      | true => exact follows_pure _
      | false => exact follows_stray found rest

theorem follows_combinator : combinator.Follows text t (combinatorBefore t) := by
  have hspaced : decide ((Text.skipBlank t).length < t.length) =
      !(t.takeWhile isBlank).isEmpty := by
    have hparts := List.takeWhile_append_dropWhile (p := isBlank) (l := t)
    have hlength := congrArg List.length hparts
    rw [List.length_append] at hlength
    unfold Text.skipBlank
    cases hblanks : t.takeWhile isBlank with
    | nil =>
      rw [hblanks, List.length_nil] at hlength
      exact decide_eq_false (by omega)
    | cons c blanks =>
      rw [hblanks, List.length_cons] at hlength
      exact decide_eq_true (by omega)
  refine (follows_scan isBlank).andThen ?_
  rw [combinatorBefore, hspaced]
  exact follows_combinatorAfter _

/-- Whatever joins the next compound is not empty, so that every round of a chain takes something.
-/
theorem exists_join {rest : Text} {combinator : Combinator}
    (h : combinatorBefore t = .ok (some combinator, rest)) :
    ∃ join, t = join ++ rest ∧ join ≠ [] := by
  obtain ⟨before, -, ht⟩ := SelectorReader.exists_blanks t
  have hwritten : ∀ {symbol : Char} {after : Text}, Text.skipBlank t = symbol :: after →
      ∃ join, t = join ++ Text.skipBlank after ∧ join ≠ [] := by
    intro symbol after hsymbol
    obtain ⟨blanks, -, hafter⟩ := SelectorReader.exists_blanks after
    refine ⟨before ++ symbol :: blanks, ?_, by simp⟩
    rw [List.append_assoc, List.cons_append, ← hafter, ← hsymbol, ← ht]
  unfold combinatorBefore combinatorAt at h
  split at h
  · cases h
  · cases h
  · cases h
  · next hsymbol =>
    cases h
    exact hwritten hsymbol
  · next hsymbol =>
    cases h
    exact hwritten hsymbol
  · next hsymbol =>
    cases h
    exact hwritten hsymbol
  · next found after _ _ _ _ _ hahead =>
    split at h
    · next hspaced =>
      cases h
      have hshorter := of_decide_eq_true hspaced
      rw [hahead] at ht hshorter
      refine ⟨before, ht, ?_⟩
      rintro rfl
      rw [List.nil_append] at ht
      rw [ht] at hshorter
      exact Nat.lt_irrefl _ hshorter
    · cases h

/-! ### Compounds and lists -/

theorem compound_ne_nil {read : Compound} (h : SelectorGrammar.SpellsCompound t read) :
    t ≠ [] := by
  cases h with
  | mk _ _ hne => exact hne

theorem list_ne_nil {read : SelectorList} (h : SelectorGrammar.SpellsList t read) : t ≠ [] := by
  have hcomplex : ∀ {t : Text} {complex : Complex}, SelectorGrammar.SpellsComplex t complex →
      t ≠ [] := by
    rintro _ _ ⟨hfirst, -⟩
    exact List.append_ne_nil_of_left_ne_nil (compound_ne_nil hfirst) _
  cases h with
  | one _ h _ => simp [hcomplex h]
  | more _ h _ _ => simp

variable {inner : Walk SelectorList} {reader : ListReader} {size : Nat}

/-- The walk follows the reader where less than `size` characters are ahead. -/
def FollowsBelow (inner : Walk SelectorList) (reader : ListReader) (text : Text) (size : Nat) :
    Prop :=
  ∀ {t : Text}, t.length < size → inner.Follows text t (reader t)

theorem follows_parenList (hinner : FollowsBelow inner reader text size) (hreader : reader.Sound)
    (hsize : t.length ≤ size) :
    (parenList inner).Follows text t (SelectorReader.parenList reader t) := by
  unfold SelectorReader.parenList
  refine Follows.expect fun inside hinside => ?_
  refine Follows.of_suffix fun hsuffix => follows_here.andThen ?_
  -- The parenthesis is not given to the reader of the level below.
  have hshorter : inside.length < size := by
    rw [hinside, List.length_cons] at hsize
    omega
  refine (hinner hshorter).bind fun list rest hread => ?_
  obtain ⟨taken, rfl, hlist⟩ := hreader hread
  refine (follows_note (list_ne_nil hlist) hsuffix .nested).andThen (follows_skipBlank.andThen ?_)
  exact Follows.expect fun rest _ => follows_pure list

theorem follows_pseudo (hinner : FollowsBelow inner reader text size) (hreader : reader.Sound)
    (hsize : t.length ≤ size) :
    (pseudo inner).Follows text t (SelectorReader.pseudo reader t) := by
  unfold SelectorReader.pseudo
  refine (follows_someName _).bind fun word rest hread => ?_
  obtain ⟨-, rfl⟩ := SelectorReader.someName_sound hread
  have hlist : (parenList inner).Follows text rest (SelectorReader.parenList reader rest) := by
    refine follows_parenList hinner hreader ?_
    rw [List.length_append] at hsize
    omega
  dsimp only
  generalize String.ofList word = written
  by_cases hnot : written = "not"
  · subst hnot
    exact hlist.bind fun list rest _ => follows_pure _
  by_cases hmatches : written = "matches"
  · subst hmatches
    exact hlist.bind fun list rest _ => follows_pure _
  by_cases his : written = "is"
  · subst his
    exact hlist.bind fun list rest _ => follows_pure _
  by_cases hhas : written = "has"
  · subst hhas
    exact hlist.bind fun list rest _ => follows_pure _
  by_cases hfirst : written = "first-child"
  · subst hfirst
    exact follows_pure _
  by_cases hlast : written = "last-child"
  · subst hlast
    exact follows_pure _
  by_cases hnth : written = "nth-child"
  · subst hnth
    exact follows_parenIndex.bind fun position rest _ => follows_pure _
  by_cases hnthLast : written = "nth-last-child"
  · subst hnthLast
    exact follows_parenIndex.bind fun position rest _ => follows_pure _
  by_cases hstatement : written = "statement"
  · subst hstatement
    exact follows_pure _
  by_cases hexpression : written = "expression"
  · subst hexpression
    exact follows_pure _
  -- Any other word is refused by both.
  simp only
  exact follows_throw (.unknownPseudo word) trivial

theorem follows_partsWithin (hinner : FollowsBelow inner reader text size) (hreader : reader.Sound)
    (hsize : t.length ≤ size) {bound bound' : Nat} (hbound : t.length < bound)
    (hbound' : t.length ≤ bound') (attributes : List Attribute) (pseudos : List Pseudo) :
    (partsWithin inner bound attributes pseudos).Follows text t
      (SelectorReader.parts reader bound' attributes pseudos t) := by
  fun_induction SelectorReader.parts reader bound' attributes pseudos t generalizing bound with
  | case1 bound' attributes pseudos t ih =>
    obtain ⟨bound, rfl⟩ := Nat.exists_eq_add_one.mpr (Nat.zero_lt_of_lt hbound)
    refine Follows.of_suffix fun hsuffix => follows_here.andThen (follows_peek.andThen ?_)
    refine (follows_next_cons '[' t).andThen (follows_bracketed.bind fun read rest hread => ?_)
    obtain ⟨inside, rfl, -⟩ := SelectorReader.bracketed_sound hread
    simp only [List.length_cons, List.length_append] at hsize hbound hbound'
    have hnote := @follows_note text ('[' :: (inside ++ [']'])) rest (by simp)
      (by simpa using hsuffix) .parts
    simp only [List.cons_append, List.append_assoc, List.nil_append] at hnote
    exact hnote.andThen (ih _ _ (by omega) (by omega) (by omega))
  | case2 bound' attributes pseudos t ih =>
    obtain ⟨bound, rfl⟩ := Nat.exists_eq_add_one.mpr (Nat.zero_lt_of_lt hbound)
    refine Follows.of_suffix fun hsuffix => follows_here.andThen (follows_peek.andThen ?_)
    simp only [List.length_cons] at hsize hbound hbound'
    have hpseudo := follows_pseudo (t := t) hinner hreader (by omega)
    refine (follows_next_cons ':' t).andThen (hpseudo.bind fun read rest hread => ?_)
    obtain ⟨taken, rfl, -⟩ := SelectorReader.pseudo_sound hreader hread
    simp only [List.length_append] at hsize hbound hbound'
    have hnote := @follows_note text (':' :: taken) rest (by simp) hsuffix .parts
    exact hnote.andThen (ih _ _ (by omega) (by omega) (by omega))
  | case3 bound' attributes pseudos t hbracket hcolon =>
    obtain ⟨bound, rfl⟩ := Nat.exists_eq_add_one.mpr (Nat.zero_lt_of_lt hbound)
    refine follows_here.andThen (follows_peek.andThen ?_)
    -- A reader that may not go round again has nothing ahead.
    have hround : ∀ {c : Char} {rest : Text}, t = c :: rest → bound' = bound' - 1 + 1 := by
      rintro c rest rfl
      rw [List.length_cons] at hbound'
      omega
    have hbracket : ∀ rest, t ≠ '[' :: rest := fun rest ht => hbracket _ rest (hround ht) ht
    have hcolon : ∀ rest, t ≠ ':' :: rest := fun rest ht => hcolon _ rest (hround ht) ht
    split
    · next hhead => exact absurd hhead (head?_ne_some hbracket)
    · next hhead => exact absurd hhead (head?_ne_some hcolon)
    · exact follows_pure _

/-- The cursor has not moved just where nothing was taken: characters have a size. -/
theorem offset_eq_iff {taken rest : Text} (hsuffix : taken ++ rest <:+ text) :
    Text.size text - Text.size rest = Text.size text - Text.size (taken ++ rest) ↔
      taken = [] := by
  obtain ⟨before, rfl⟩ := hsuffix
  rw [← Text.size_eq_zero_iff]
  simp only [Text.size_append]
  omega

theorem follows_compound (hinner : FollowsBelow inner reader text size) (hreader : reader.Sound)
    (hsize : t.length ≤ size) :
    (compound inner).Follows text t (SelectorReader.compound reader t) := by
  unfold SelectorReader.compound
  refine Follows.of_suffix fun hsuffix => follows_here.andThen ?_
  refine follows_kind.bind fun kind rest hkind => ?_
  obtain ⟨written, rfl, -⟩ := SelectorReader.kind_sound hkind
  rw [List.length_append] at hsize
  have hparts : (bounded fun bound => partsWithin inner bound [] []).Follows text rest
      (SelectorReader.parts reader rest.length [] [] rest) :=
    follows_bounded fun bound hbound =>
      follows_partsWithin hinner hreader (by omega) hbound (Nat.le_refl _) [] []
  refine hparts.bind fun (attributes, pseudos) after hread => ?_
  obtain ⟨taken, -, -, rfl, -⟩ := SelectorReader.parts_sound hreader hread
  rw [← List.append_assoc] at hsuffix ⊢
  -- The reader compares lengths, the walk offsets; either says that nothing was taken.
  have hlength : after.length = (written ++ taken ++ after).length ↔ written ++ taken = [] := by
    simp only [← List.length_eq_zero_iff, List.length_append]
    omega
  refine follows_here.andThen ?_
  dsimp only
  simp only [hlength, offset_eq_iff hsuffix]
  by_cases hnil : written ++ taken = []
  · rw [if_pos hnil, if_pos hnil, hnil]
    exact follows_missing .selector
  · rw [if_neg hnil, if_neg hnil]
    exact follows_pure _

theorem follows_chainWithin (hinner : FollowsBelow inner reader text size) (hreader : reader.Sound)
    (hsize : t.length ≤ size) {bound bound' : Nat} (hbound : t.length < bound)
    (hbound' : t.length ≤ bound') (left : Complex) :
    (chainWithin inner bound left).Follows text t (SelectorReader.chain reader bound' left t) := by
  induction bound' generalizing bound left t with
  | zero =>
    obtain ⟨bound, rfl⟩ := Nat.exists_eq_add_one.mpr (Nat.zero_lt_of_lt hbound)
    obtain rfl : t = [] := List.length_eq_zero_iff.mp (by omega)
    have hnothing : combinator.Follows text [] (.ok (none, [])) := follows_combinator
    exact follows_here.andThen (hnothing.andThen (follows_pure left))
  | succ bound' ih =>
    obtain ⟨bound, rfl⟩ := Nat.exists_eq_add_one.mpr (Nat.zero_lt_of_lt hbound)
    rw [chain_succ]
    refine Follows.of_suffix fun hsuffix => follows_here.andThen ?_
    refine follows_combinator.bind fun joined rest hjoined => ?_
    cases joined with
    | none => exact follows_pure left
    | some combinator =>
      obtain ⟨join, rfl, hne⟩ := exists_join hjoined
      have hjoin : 0 < join.length := List.length_pos_iff.mpr hne
      rw [List.length_append] at hsize hbound hbound'
      refine (follows_compound hinner hreader (by omega)).bind fun subject after hread => ?_
      obtain ⟨taken, rfl, -⟩ := SelectorReader.compound_sound hreader hread
      rw [List.length_append] at hsize hbound hbound'
      -- The round took what joins the compounds, and the second of them.
      rw [← List.append_assoc] at hsuffix ⊢
      refine (follows_note (by simp [hne]) hsuffix .chain).andThen ?_
      exact ih (by omega) (by omega) (by omega) _

theorem follows_complex (hinner : FollowsBelow inner reader text size) (hreader : reader.Sound)
    (hsize : t.length ≤ size) :
    (complex inner).Follows text t (SelectorReader.complex reader t) := by
  unfold SelectorReader.complex
  obtain ⟨blanks, -, ht⟩ := SelectorReader.exists_blanks t
  rw [ht, List.length_append] at hsize
  refine follows_skipBlank.andThen ?_
  refine (follows_compound hinner hreader (by omega)).bind fun first rest hread => ?_
  obtain ⟨taken, hrest, -⟩ := SelectorReader.compound_sound hreader hread
  rw [hrest, List.length_append] at hsize
  exact follows_bounded fun bound hbound =>
    follows_chainWithin hinner hreader (by omega) hbound (Nat.le_refl _) (.compound first)

theorem follows_alternativesWithin (hinner : FollowsBelow inner reader text size)
    (hreader : reader.Sound) (hsize : t.length ≤ size) {bound bound' : Nat}
    (hbound : t.length < bound) (hbound' : t.length ≤ bound') (list : SelectorList) :
    (alternativesWithin inner bound list).Follows text t
      (SelectorReader.alternatives reader bound' list t) := by
  induction bound' generalizing bound list t with
  | zero =>
    obtain ⟨bound, rfl⟩ := Nat.exists_eq_add_one.mpr (Nat.zero_lt_of_lt hbound)
    obtain rfl : t = [] := List.length_eq_zero_iff.mp (by omega)
    refine follows_here.andThen (follows_skipBlank.andThen ?_)
    have hcomma : ∀ rest, Text.skipBlank [] ≠ ',' :: rest := nofun
    exact (follows_eat_other hcomma).andThen (follows_pure list)
  | succ bound' ih =>
    obtain ⟨bound, rfl⟩ := Nat.exists_eq_add_one.mpr (Nat.zero_lt_of_lt hbound)
    obtain ⟨blanks, -, ht⟩ := SelectorReader.exists_blanks t
    rw [SelectorReader.alternatives]
    refine Follows.of_suffix fun hsuffix => follows_here.andThen (follows_skipBlank.andThen ?_)
    split
    · next rest hcomma =>
      rw [hcomma] at ht ⊢
      have hlength := congrArg List.length ht
      rw [List.length_append, List.length_cons] at hlength
      refine (follows_eat_self ',' rest).andThen ?_
      rw [if_pos rfl]
      refine (follows_complex hinner hreader (by omega)).bind fun next after hread => ?_
      obtain ⟨before, written, blanks', rfl, -⟩ := SelectorReader.complex_sound hreader hread
      simp only [List.length_append] at hlength
      -- The round took the comma, with the blanks before it and the alternative after it.
      have htaken : t = (blanks ++ ',' :: (before ++ (written ++ blanks'))) ++ after := by
        simp [ht]
      rw [htaken] at hsuffix ⊢
      refine (follows_note (by simp) hsuffix .alternatives).andThen ?_
      exact ih (by omega) (by omega) (by omega) _
    · next hother =>
      exact (follows_eat_other hother).andThen (follows_pure list)

theorem follows_list (hinner : FollowsBelow inner reader text size) (hreader : reader.Sound)
    (hsize : t.length ≤ size) : (list inner).Follows text t (SelectorReader.list reader t) := by
  unfold SelectorReader.list
  refine (follows_complex hinner hreader hsize).bind fun first rest hread => ?_
  obtain ⟨before, written, after, rfl, -⟩ := SelectorReader.complex_sound hreader hread
  simp only [List.length_append] at hsize
  exact follows_bounded fun bound hbound =>
    follows_alternativesWithin hinner hreader (by omega) hbound (Nat.le_refl _) [first]

/-- By induction on the levels of the walk; each is entered behind a parenthesis, so a text of
fewer characters than there are levels is never too deep. -/
theorem follows_listWithin {bound bound' : Nat} (hbound : t.length < bound)
    (hbound' : t.length < bound') :
    (listWithin bound).Follows text t (SelectorReader.listWithin bound' t) := by
  induction bound generalizing bound' t with
  | zero => omega
  | succ bound ih =>
    obtain ⟨bound', rfl⟩ := Nat.exists_eq_add_one.mpr (Nat.zero_lt_of_lt hbound')
    have hinner : FollowsBelow (listWithin bound) (SelectorReader.listWithin bound') text
        t.length := fun hshorter => ih (by omega) (by omega)
    exact follows_list hinner (SelectorReader.listWithin_sound bound') (Nat.le_refl _)

theorem follows_selector :
    selector.Follows text text (do
      let (list, rest) ← SelectorReader.listWithin (text.length + 1) text
      match Text.skipBlank rest with
      | [] => .ok (list, [])
      | found :: after => .error (.unexpected found after)) := by
  have hlist : (bounded listWithin).Follows text text
      (SelectorReader.listWithin (text.length + 1) text) :=
    follows_bounded fun _ hbound => follows_listWithin hbound (Nat.lt_succ_self _)
  refine hlist.bind fun list rest _ => follows_skipBlank.andThen (follows_peek.andThen ?_)
  dsimp only
  cases Text.skipBlank rest with
  | nil => exact follows_pure list
  | cons found after => exact follows_stray found after

/-- From the start of a text the walk comes to what `readList` reads. -/
theorem selector_spec (text : Text) {bound : Nat} (hbound : text.length < bound) :
    ∃ (cursor : Cursor) (rest : Text),
      selector.runFrom text bound {} = some (SelectorReader.readList text, cursor) ∧
        cursor.At text rest ∧
          ∀ error, SelectorReader.readList text = .error error → error.PointsInto text := by
  have h := follows_selector bound hbound {} (.start text)
  unfold SelectorReader.readList
  cases hlist : SelectorReader.listWithin (text.length + 1) text with
  | error fault =>
    rw [hlist] at h
    obtain ⟨cursor, rest, hrun, hat, hpoints⟩ := h
    refine ⟨cursor, rest, hrun, hat, ?_⟩
    rintro _ ⟨⟩
    exact hpoints
  | ok read =>
    obtain ⟨list, after⟩ := read
    rw [hlist, SelectorReader.ok_bind] at h
    dsimp only at h ⊢
    cases hafter : Text.skipBlank after with
    | nil =>
      rw [hafter] at h
      obtain ⟨cursor, hrun, hat⟩ := h
      exact ⟨cursor, [], hrun, hat, nofun⟩
    | cons found after =>
      rw [hafter] at h
      obtain ⟨cursor, rest, hrun, hat, hpoints⟩ := h
      refine ⟨cursor, rest, hrun, hat, ?_⟩
      rintro _ ⟨⟩
      exact hpoints

end SelectorWalk

/-- **Reading a selector goes forward, and its errors point to where they arise.**  On any text

* the walk over a selector ends with what the text is read as, for every bound above the length of
  the text; up to its end the cursor has stood at boundaries of the text only and has never gone
  back, and whenever a loop went round, or a list between parentheses was read, it has taken a
  character at least;
* where something is said to be lacking is a boundary of the text;
* where a character is said to be out of place is inside the text, and the character begins
  there. -/
theorem SelectorReader.readList_progresses (text : Text) :
    (∀ bound, text.length < bound → ∃ cursor : Cursor,
      SelectorWalk.selector.runFrom text bound {} = some (readList text, cursor) ∧
        cursor.trail.getLast? = some cursor.offset ∧
        cursor.trail.Pairwise (· ≤ ·) ∧
        (∀ offset ∈ cursor.trail, Text.IsBoundary text offset ∧ offset ≤ Text.size text) ∧
        ∀ round ∈ cursor.rounds, round.Consumes text) ∧
    (∀ selector offset what, readList text = .error (.expected selector offset what) →
      selector = text ∧ Text.IsBoundary text offset ∧ offset ≤ Text.size text) ∧
    (∀ selector offset found, readList text = .error (.unexpected selector offset found) →
      selector = text ∧ offset < Text.size text ∧
        ∃ before after, text = before ++ found :: after ∧ Text.size before = offset) := by
  have hpoints : ∀ error, readList text = .error error → error.PointsInto text := by
    obtain ⟨_, _, -, -, hpoints⟩ := SelectorWalk.selector_spec text (Nat.lt_succ_self _)
    exact hpoints
  refine ⟨fun bound hbound => ?_, ?_, ?_⟩
  · obtain ⟨cursor, rest, hrun, hat, -⟩ := SelectorWalk.selector_spec text hbound
    refine ⟨cursor, hrun, hat.last, hat.forward, fun offset hoffset => ?_, hat.rounds⟩
    have hboundary := (hat.behind offset hoffset).1
    exact ⟨hboundary, hboundary.le_size⟩
  · intro selector offset what herror
    obtain ⟨hselector, hboundary⟩ := hpoints _ herror
    exact ⟨hselector, hboundary, hboundary.le_size⟩
  · intro selector offset found herror
    obtain ⟨hselector, before, after, htext, hbefore⟩ := hpoints _ herror
    refine ⟨hselector, ?_, before, after, htext, hbefore⟩
    have hfound := Char.utf8Size_pos found
    rw [htext, Text.size_append, Text.size_cons, ← hbefore]
    omega

/-- A parenthesis is out of place behind a value of two bytes, and a quote is lacking there. -/
theorem SelectorReader.readList_progresses_stray :
    (∃ cursor : Cursor, SelectorWalk.selector.runFrom "[a='é'] )".toList 10 {}
      = some (.error (.unexpected "[a='é'] )".toList 9 ')'), cursor) ∧
        ∀ offset ∈ cursor.trail, Text.IsBoundary "[a='é'] )".toList offset) ∧
    (∃ before after, "[a='é'] )".toList = before ++ ')' :: after ∧ Text.size before = 9) ∧
    Text.IsBoundary "[a='é".toList 6 := by
  obtain ⟨hwalk, -, hstray⟩ := readList_progresses "[a='é'] )".toList
  have hread : readList "[a='é'] )".toList
      = .error (.unexpected "[a='é'] )".toList 9 ')') := rfl
  have hlacking : readList "[a='é".toList = .error (.expected "[a='é".toList 6 .closingQuote) := rfl
  refine ⟨?_, (hstray _ _ _ hread).2.2, ((readList_progresses _).2.1 _ _ _ hlacking).2.1⟩
  obtain ⟨cursor, hrun, -, -, hboundaries, -⟩ := hwalk 10 (by decide)
  exact ⟨cursor, by rw [← hread, hrun], fun offset hoffset => (hboundaries offset hoffset).1⟩

example : (SelectorWalk.selector.runFrom "a > b:is(c, d)".toList 15 {}).map (·.2.rounds)
    = some [⟨.alternatives, 10, 13⟩, ⟨.nested, 9, 13⟩, ⟨.parts, 5, 14⟩, ⟨.chain, 1, 14⟩] := by
  decide +kernel

end SyntaxGraft
