import SyntaxGraft.Proofs.Selector.Completeness
import SyntaxGraft.Selector.Compile
/-!
# The shorthand and its spelling in full

A shorthand `#/body/flags` is expanded without ever being read as selector text, while its spelling
`Kind=Identifier[name=/body/flags]` goes through the reader.  Both give the same
(`Shorthand.readList_canonical`), whatever stands in the body, as long as the flags are letters:
the reader takes letters only for flags, and after them wants the bracket.  Where the flags are
anything else the shorthand is refused (`Regex.readFlags_eq_error_iff`), because every flag that
means something is a letter.  `Shorthand.compiles_as_canonical` puts the two together.
-/

namespace SyntaxGraft

/-! ### Flags -/

namespace Regex

/-- The flags that a literal may have: three that `Regex.readFlags` acts on, and the idle ones. -/
def supportedFlags : List Char :=
  ['i', 'm', 's'] ++ idleFlags

theorem isAlpha_of_mem_supportedFlags : ∀ c ∈ supportedFlags, c.isAlpha = true := by
  have hall : supportedFlags.all Char.isAlpha = true := by decide
  exact List.all_eq_true.mp hall

/-- The first flag that is not supported (`supportedFlags`). -/
def unsupportedFlag? (flags : Text) : Option Char :=
  flags.find? fun c => c ∉ supportedFlags

theorem unsupportedFlag?_cons_of_mem {c : Char} (hc : c ∈ supportedFlags) (rest : Text) :
    unsupportedFlag? (c :: rest) = unsupportedFlag? rest := by
  simp [unsupportedFlag?, hc]

theorem unsupportedFlag?_cons_of_not_mem {c : Char} (hc : c ∉ supportedFlags) (rest : Text) :
    unsupportedFlag? (c :: rest) = some c := by
  simp [unsupportedFlag?, hc]

/-- **Flags are refused at the first that is not supported**, and else accepted. -/
theorem readFlags_eq_error_iff {flags : Flags} {text : Text} {refusal : Refusal} :
    readFlags flags text = .error refusal ↔
      ∃ letter, unsupportedFlag? text = some letter ∧ refusal = .flag letter := by
  -- One case for each branch of the reader: the end, the flags `i`, `m` and `s`, an idle flag, and
  -- a flag that is refused.
  fun_induction readFlags flags text with
  | case1 flags => simp [unsupportedFlag?]
  | case2 flags rest ih =>
    rw [unsupportedFlag?_cons_of_mem (by decide)]
    exact ih
  | case3 flags rest ih =>
    rw [unsupportedFlag?_cons_of_mem (by decide)]
    exact ih
  | case4 flags rest ih =>
    rw [unsupportedFlag?_cons_of_mem (by decide)]
    exact ih
  | case5 flags c rest hi hm hs hidle ih =>
    have hc : c ∈ supportedFlags := List.mem_append_right _ (List.contains_iff_mem.mp hidle)
    rw [unsupportedFlag?_cons_of_mem hc]
    exact ih
  | case6 flags c rest hi hm hs hidle =>
    have hc : c ∉ supportedFlags := by
      intro hmem
      rcases List.mem_append.mp hmem with hmem | hmem
      · simp only [List.mem_cons, List.not_mem_nil, or_false] at hmem
        rcases hmem with rfl | rfl | rfl
        · exact hi rfl
        · exact hm rfl
        · exact hs rfl
      · exact hidle (List.contains_iff_mem.mpr hmem)
    rw [unsupportedFlag?_cons_of_not_mem hc]
    simp [eq_comm]

end Regex

/-! ### A regex in brackets -/

namespace SelectorReader

open SelectorGrammar

theorem error_bind {ε α β : Type} (fault : ε) (f : α → Except ε β) :
    ((Except.error fault : Except ε α) >>= f) = .error fault :=
  rfl

/-- A regex that is written as it should be is read up to the end of its flags, or refused as
`Regex.compile` refuses it. -/
theorem regexTest_eq {op : CompareOp} {negated : Bool} {body flags rest : Text}
    (hnegated : regexNegated op = .ok negated) (hbody : IsRegexBody body)
    (hflags : ∀ c ∈ flags, c.isAlpha = true) (hrest : Stops Char.isAlpha rest) :
    regexTest op (body ++ '/' :: (flags ++ rest)) =
      match Regex.compile body flags with
      | .ok pattern => .ok (.regex pattern negated, rest)
      | .error refusal => .error (.invalidRegex body flags refusal) := by
  rw [regexTest, hnegated, ok_bind, splitBody?_complete hbody]
  dsimp only
  rw [takeWhile_run hflags hrest, dropWhile_run hflags hrest]
  cases Regex.compile body flags with
  | ok pattern => rfl
  | error refusal => rfl

/-- A test `[word=/body/flags]` whose regex does not compile is refused for it, whatever follows the
flags. -/
theorem bracketed_refused {word body flags rest : Text} {refusal : Regex.Refusal}
    (hword : IsName word) (hbody : IsRegexBody body) (hflags : ∀ c ∈ flags, c.isAlpha = true)
    (hrest : Stops Char.isAlpha rest) (h : Regex.compile body flags = .error refusal) :
    bracketed (word ++ '=' :: '/' :: (body ++ '/' :: (flags ++ rest)))
      = .error (.invalidRegex body flags refusal) := by
  have hpath : SpellsPath word [String.ofList word] := .one hword
  have hname : Stops isNameChar ('=' :: '/' :: (body ++ '/' :: (flags ++ rest))) :=
    stops_cons.mpr (by decide)
  have hdot : Stops (· == '.') ('=' :: '/' :: (body ++ '/' :: (flags ++ rest))) :=
    stops_cons.mpr rfl
  unfold bracketed
  rw [skipBlank_of_stops (stops_path hpath _), fieldPath_complete hpath hname hdot, ok_bind]
  dsimp only
  rw [skipBlank_of_stops (stops_cons.mpr rfl)]
  -- The path is read; then the operator `=`, and then the regex.
  show (operator ('=' :: '/' :: (body ++ '/' :: (flags ++ rest))) >>= _) = _
  rw [show operator ('=' :: '/' :: (body ++ '/' :: (flags ++ rest)))
    = .ok (.eq, '/' :: (body ++ '/' :: (flags ++ rest))) from rfl, ok_bind]
  dsimp only
  have hnegated : regexNegated .eq = .ok false := rfl
  rw [skipBlank_of_stops (stops_cons.mpr rfl), valueTest, regexTest_eq hnegated hbody hflags hrest,
    h]
  rfl

/-- A fault in the first brackets of a selector (`bracketed`) is the fault of the selector. -/
theorem readList_of_bracketed_fault {text t : Text} {read : Option String} {fault : Fault}
    (hkind : SpellsKind text read) (hblank : Stops isBlank (text ++ '[' :: t))
    (h : bracketed t = .error fault) :
    readList (text ++ '[' :: t) = .error (fault.locate (text ++ '[' :: t)) := by
  have hstops : Stops continuesKind ('[' :: t) := stops_cons.mpr (by decide)
  have hcompound : ∀ inner, compound inner (text ++ '[' :: t) = .error fault := by
    intro inner
    unfold compound
    rw [kind_complete hkind hstops, ok_bind]
    dsimp only
    rw [List.length_cons, parts, h, error_bind, error_bind]
  have hlist : ∀ bound, listWithin (bound + 1) (text ++ '[' :: t) = .error fault := by
    intro bound
    rw [listWithin, list, complex, skipBlank_of_stops hblank, hcompound, error_bind, error_bind]
  rw [readList, hlist]

end SelectorReader

/-! ### The spelling in full -/

namespace Shorthand

open SelectorReader SelectorGrammar

/-- What a text that `Shorthand.scan` takes is made of. -/
theorem scan_eq_ok {text : Text} {shorthand : Shorthand}
    (h : scan text = some (.ok shorthand)) :
    text = '#' :: '/' :: (shorthand.body ++ '/' :: shorthand.flags) ∧
      IsRegexBody shorthand.body := by
  unfold scan at h
  split at h
  next rest =>
    split at h
    next body flags hsplit =>
      obtain rfl := Except.ok.inj (Option.some.inj h)
      obtain ⟨rfl, hbody⟩ := splitBody?_sound hsplit
      exact ⟨rfl, hbody⟩
    next => cases Option.some.inj h
  next => cases h

/-- The spelling in full as a kind and one pair of brackets, the way the reader comes to it. -/
theorem canonical_eq (shorthand : Shorthand) :
    shorthand.canonical = "Kind=Identifier".toList ++ '[' ::
      ("name".toList ++ '=' :: '/' :: (shorthand.body ++ '/' :: (shorthand.flags ++ [']']))) := by
  show "Kind=Identifier[name=/".toList ++ shorthand.body ++ ['/'] ++ shorthand.flags ++ [']'] = _
  rw [List.append_assoc, List.append_assoc, List.append_assoc]
  rfl

/-- **The reader makes of the spelling in full what the shorthand expands to**, and refuses it for
the same reason. -/
theorem readList_canonical {shorthand : Shorthand} (hbody : IsRegexBody shorthand.body)
    (hflags : ∀ c ∈ shorthand.flags, c.isAlpha = true) :
    readList shorthand.canonical = shorthand.expand := by
  have hkind : SpellsKind "Kind=Identifier".toList (some "Identifier") :=
    @SpellsKind.explicit "Identifier".toList (by decide)
  have hname : IsName "name".toList := by decide
  unfold expand
  cases hcompile : Regex.compile shorthand.body shorthand.flags with
  | error refusal =>
    -- No grammar speaks of a text that is refused, so the reader is followed to its fault.
    have hstops : Stops Char.isAlpha [']'] := stops_cons.mpr rfl
    have hfault := bracketed_refused hname hbody hflags hstops hcompile
    rw [canonical_eq]
    exact readList_of_bracketed_fault hkind (stops_cons.mpr rfl) hfault
  | ok pattern =>
    -- The text spells the list: value, attribute, compound and chain, each made of the one before.
    have hvalue : SpellsValue .eq ('/' :: (shorthand.body ++ '/' :: shorthand.flags))
        (.regex pattern false) :=
      .regex hbody hflags hcompile false
    have hattribute : SpellsAttribute
        ("name".toList ++ '=' :: '/' :: (shorthand.body ++ '/' :: shorthand.flags))
        ⟨["name"], .regex pattern false⟩ := by
      have htested := SpellsAttribute.tested isBlanks_nil (.one hname) isBlanks_nil isBlanks_nil
        hvalue (by simp [FollowsOperator]) isBlanks_nil
      rw [List.append_nil] at htested
      exact htested
    have hparts := SpellsParts.bracketed hattribute .nil
    have hcompound := SpellsCompound.mk hkind hparts (by simp)
    have hlist := SpellsList.one isBlanks_nil (.mk hcompound (.nil _)) isBlanks_nil
    rw [readList_eq_ok_iff, canonical_eq]
    simpa only [List.nil_append, List.append_nil, List.append_assoc, List.cons_append] using hlist

/-- Compiling a shorthand is expanding it: `Shorthand.expand` reads no selector text. -/
theorem compile_of_scan {text : Text} {shorthand : Shorthand}
    (h : scan text = some (.ok shorthand)) :
    Selector.compile text = shorthand.expand.map fun list => ⟨text, some list⟩ := by
  obtain ⟨htext, -⟩ := scan_eq_ok h
  have hempty : text.isEmpty = false := by rw [htext]; rfl
  rw [Selector.compile, hempty, h]
  rfl

/-- Compiling the spelling in full is reading it (`SelectorReader.readList`). -/
theorem compile_canonical (shorthand : Shorthand) :
    Selector.compile shorthand.canonical
      = (readList shorthand.canonical).map fun list => ⟨shorthand.canonical, some list⟩ := by
  have hempty : shorthand.canonical.isEmpty = false := by rw [canonical_eq]; rfl
  have hscan : scan shorthand.canonical = none := by rw [canonical_eq]; rfl
  rw [Selector.compile, hempty, hscan]
  rfl

/-- A shorthand has a list, or its regex is refused. -/
theorem expand_eq_or (shorthand : Shorthand) :
    (∃ list, shorthand.expand = .ok list) ∨
      ∃ refusal, shorthand.expand
        = .error (.invalidRegex shorthand.body shorthand.flags refusal) := by
  unfold expand
  cases Regex.compile shorthand.body shorthand.flags with
  | ok pattern => exact .inl ⟨_, rfl⟩
  | error refusal => exact .inr ⟨refusal, rfl⟩

/-- **A shorthand means what its spelling in full means.**  All that follows on the body of a
shorthand are its flags, and

* if the flags are letters, both compile to one selector list, which matches the same nodes from
  any root on, or both are refused as the same regex for the same reason;
* if they are not, the shorthand is refused, and the reason names the first flag that is not
  supported. -/
theorem compiles_as_canonical {text : Text} {shorthand : Shorthand}
    (h : scan text = some (.ok shorthand)) :
    text = '#' :: '/' :: (shorthand.body ++ '/' :: shorthand.flags) ∧
    ((∀ c ∈ shorthand.flags, c.isAlpha = true) →
      (∃ list : SelectorList,
        Selector.compile text = .ok ⟨text, some list⟩ ∧
        Selector.compile shorthand.canonical = .ok ⟨shorthand.canonical, some list⟩ ∧
        ∀ root : Node, Selector.evaluateFrom ⟨text, some list⟩ root
          = Selector.evaluateFrom ⟨shorthand.canonical, some list⟩ root) ∨
      ∃ refusal,
        Selector.compile text
          = .error (.invalidRegex shorthand.body shorthand.flags refusal) ∧
        Selector.compile shorthand.canonical
          = .error (.invalidRegex shorthand.body shorthand.flags refusal)) ∧
    ((∃ c ∈ shorthand.flags, c.isAlpha = false) →
      ∃ letter, Regex.unsupportedFlag? shorthand.flags = some letter ∧
        Selector.compile text
          = .error (.invalidRegex shorthand.body shorthand.flags (.flag letter))) := by
  obtain ⟨htext, hbody⟩ := scan_eq_ok h
  refine ⟨htext, ?_, ?_⟩
  · -- Flags that are letters: both sides are `Shorthand.expand`.
    intro hflags
    rw [compile_of_scan h, compile_canonical, readList_canonical hbody hflags]
    rcases shorthand.expand_eq_or with ⟨list, hlist⟩ | ⟨refusal, hrefusal⟩
    · rw [hlist]
      exact .inl ⟨list, rfl, rfl, fun root => rfl⟩
    · rw [hrefusal]
      exact .inr ⟨refusal, rfl, rfl⟩
  · rintro ⟨c, hc, hletter⟩
    -- Supported flags are letters, so one of the flags is not supported.
    have hsome : (Regex.unsupportedFlag? shorthand.flags).isSome = true := by
      rw [Regex.unsupportedFlag?, List.find?_isSome]
      refine ⟨c, hc, decide_eq_true ?_⟩
      intro hmem
      rw [Regex.isAlpha_of_mem_supportedFlags c hmem] at hletter
      cases hletter
    obtain ⟨letter, hfirst⟩ := Option.isSome_iff_exists.mp hsome
    have hrefusal : Regex.readFlags {} shorthand.flags = .error (.flag letter) :=
      Regex.readFlags_eq_error_iff.mpr ⟨letter, hfirst, rfl⟩
    refine ⟨letter, hfirst, ?_⟩
    have hcompile : Regex.compile shorthand.body shorthand.flags = .error (.flag letter) := by
      rw [Regex.compile, hrefusal]
    rw [compile_of_scan h, expand, hcompile]
    rfl

/-- A shorthand whose regex compiles (`Regex.compile`) is not refused. -/
theorem compile_ne_error {text : Text} {shorthand : Shorthand} {error : SelectorError}
    (h : scan text = some (.ok shorthand))
    (hregex : (Regex.compile shorthand.body shorthand.flags).isOk = true) :
    Selector.compile text ≠ .error error := by
  rw [compile_of_scan h, expand]
  cases hcompile : Regex.compile shorthand.body shorthand.flags with
  | error refusal =>
    rw [hcompile] at hregex
    cases hregex
  | ok pattern =>
    intro hno
    cases hno

/-- A bracket, a comma, a quote and a slash in the body belong to the regex, and a bracket among the
flags is refused rather than read. -/
theorem compiles_as_canonical_brackets :
    let text := "#/]|b, '\\//g".toList
    let shorthand : Shorthand := ⟨"]|b, '\\/".toList, "g".toList⟩
    let trailing := "#/b/g], Program".toList
    let refused : Shorthand := ⟨"b".toList, "g], Program".toList⟩
    scan text = some (.ok shorthand) ∧ (∀ c ∈ shorthand.flags, c.isAlpha = true) ∧
    (∃ list : SelectorList, Selector.compile text = .ok ⟨text, some list⟩ ∧
      Selector.compile shorthand.canonical = .ok ⟨shorthand.canonical, some list⟩) ∧
    scan trailing = some (.ok refused) ∧ (∃ c ∈ refused.flags, c.isAlpha = false) ∧
    Selector.compile trailing
      = .error (.invalidRegex refused.body refused.flags (.flag ']')) := by
  intro text shorthand trailing refused
  have hscan : scan text = some (.ok shorthand) := rfl
  have hflags : ∀ c ∈ shorthand.flags, c.isAlpha = true :=
    List.all_eq_true.mp (by decide : shorthand.flags.all Char.isAlpha = true)
  have hscan' : scan trailing = some (.ok refused) := rfl
  have hflags' : ∃ c ∈ refused.flags, c.isAlpha = false := ⟨']', by decide, by decide⟩
  have hregex : (Regex.compile "]|b, '\\/".toList "g".toList).isOk = true := by
    decide +kernel
  refine ⟨hscan, hflags, ?_, hscan', hflags', ?_⟩
  · rcases (compiles_as_canonical hscan).2.1 hflags with ⟨list, htext, hcanonical, -⟩ | ⟨_, hno, -⟩
    · exact ⟨list, htext, hcanonical⟩
    · exact absurd hno (compile_ne_error hscan hregex)
  · obtain ⟨letter, hfirst, herror⟩ := (compiles_as_canonical hscan').2.2 hflags'
    obtain rfl : ']' = letter := Option.some.inj hfirst
    exact herror

end Shorthand

end SyntaxGraft
