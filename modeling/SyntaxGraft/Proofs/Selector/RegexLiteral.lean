import SyntaxGraft.Proofs.Selector.Shorthand
/-!
# Regex literals, written and scanned

Two scans go over the body of a regex literal, one to find its end (`Regex.splitBody?`) and one for
the pattern that it means (`Regex.unescapeSlashes`), and they have to agree on what a backslash
takes.  `Regex.units` says that once: a text is cut into single characters and escapes of two.  Each
scan is then something done to the units one by one, and so is writing a pattern between slashes
(`Regex.escapeSlashes`).

A list of units that are whole is cut in just one way (`Regex.units_flatten`), so a change of whole
units is undone unit by unit (`Regex.flatMap_units_flatMap`).  Hence scanning inverts writing, in
both directions (`Shorthand.scan_inverts_writing`).
-/

namespace SyntaxGraft

namespace Regex

open SelectorGrammar

/-! ### Units -/

/-- The characters of a text one by one, a backslash with the character after it. -/
def units : Text → List Text
  | [] => []
  | '\\' :: c :: rest => ['\\', c] :: units rest
  | c :: rest => [c] :: units rest

/-- A unit that means the same whatever comes after it. -/
inductive IsWhole : Text → Prop
  | escape (c : Char) : IsWhole ['\\', c]
  | single {c : Char} (h : c ≠ '\\') : IsWhole [c]

theorem units_append_of_isWhole {unit : Text} (h : IsWhole unit) (rest : Text) :
    units (unit ++ rest) = unit :: units rest := by
  cases h with
  | escape c => rfl
  | single h =>
    rw [List.singleton_append, units]
    intro _ _ hc
    exact absurd hc h

/-- Units that are `IsWhole` stay apart when they are put together. -/
theorem units_flatten {list : List Text} (h : ∀ unit ∈ list, IsWhole unit) :
    units list.flatten = list := by
  induction list with
  | nil => rfl
  | cons unit list ih =>
    obtain ⟨hunit, hlist⟩ := List.forall_mem_cons.mp h
    rw [List.flatten_cons, units_append_of_isWhole hunit, ih hlist]

theorem flatten_units (text : Text) : (units text).flatten = text := by
  fun_induction units text with
  | case1 => rfl
  | case2 c rest ih => rw [List.flatten_cons, ih]; rfl
  | case3 c rest _ ih => rw [List.flatten_cons, ih]; rfl

/-- Only a backslash at the end is not whole, and then it is a unit by itself. -/
theorem isWhole_of_mem_units {text unit : Text} (hdangling : ['\\'] ∉ units text)
    (h : unit ∈ units text) : IsWhole unit := by
  fun_induction units text with
  | case1 => exact absurd h List.not_mem_nil
  | case2 c rest ih =>
    rw [List.mem_cons, not_or] at hdangling
    obtain rfl | h := List.mem_cons.mp h
    · exact .escape c
    · exact ih hdangling.2 h
  | case3 c rest _ ih =>
    rw [List.mem_cons, not_or] at hdangling
    obtain rfl | h := List.mem_cons.mp h
    · exact .single fun hc => hdangling.1 (by rw [hc])
    · exact ih hdangling.2 h

/-! ### The two scans -/

/-- `IsRegexBody`, in units: a body has no slash and no dangling backslash among them. -/
theorem isRegexBody_iff {body : Text} :
    IsRegexBody body ↔ ['/'] ∉ units body ∧ ['\\'] ∉ units body := by
  constructor
  · intro h
    induction h with
    | nil => exact ⟨List.not_mem_nil, List.not_mem_nil⟩
    | escaped h ih => simpa [units] using ih
    | plain hslash hback h ih =>
      rw [← List.singleton_append, units_append_of_isWhole (.single hback)]
      simpa [Ne.symm hslash, Ne.symm hback] using ih
  · rintro ⟨hslash, hdangling⟩
    fun_induction units body with
    | case1 => exact .nil
    | case2 c rest ih =>
      rw [List.mem_cons, not_or] at hslash hdangling
      exact .escaped (ih hslash.2 hdangling.2)
    | case3 c rest _ ih =>
      rw [List.mem_cons, not_or] at hslash hdangling
      refine .plain ?_ ?_ (ih hslash.2 hdangling.2)
      · exact fun hc => hslash.1 (by rw [hc])
      · exact fun hc => hdangling.1 (by rw [hc])

/-- A body ends in one place only: where `splitBody?` finds its end. -/
theorem body_unique {body flags body' flags' : Text} (hbody : IsRegexBody body)
    (hbody' : IsRegexBody body') (h : body ++ '/' :: flags = body' ++ '/' :: flags') :
    body = body' ∧ flags = flags' := by
  have hsplit := SelectorReader.splitBody?_complete hbody flags
  rw [h, SelectorReader.splitBody?_complete hbody' flags'] at hsplit
  simpa [eq_comm] using hsplit

theorem splitBody?_eq_none_iff {text : Text} : splitBody? text = none ↔ ['/'] ∉ units text := by
  fun_induction splitBody? text with
  | case1 => simp [units]
  | case2 rest => simp [units]
  | case3 c rest ih => simpa [units] using ih
  | case4 c rest hslash hescape ih =>
    rw [units]
    · simpa [Ne.symm hslash] using ih
    · exact hescape

/-- The unit, a plain slash for an escaped one. -/
def unescapeUnit (unit : Text) : Text :=
  if unit = ['\\', '/'] then ['/'] else unit

theorem unescapeSlashes_eq_flatMap (body : Text) :
    unescapeSlashes body = (units body).flatMap unescapeUnit := by
  fun_induction unescapeSlashes body with
  | case1 => rfl
  | case2 rest ih => rw [ih]; rfl
  | case3 c rest hslash ih =>
    rw [ih, units, List.flatMap_cons, unescapeUnit, if_neg (by simpa using hslash)]
    rfl
  | case4 c rest hslash hescape ih =>
    -- A character by itself, be it a backslash at the end, is no escaped slash.
    rw [ih, units, List.flatMap_cons, unescapeUnit, if_neg (by simp)]
    · rfl
    · exact hescape

/-! ### Writing -/

/-- The unit, an escaped slash for a plain one. -/
def escapeUnit (unit : Text) : Text :=
  if unit = ['/'] then ['\\', '/'] else unit

/-- The pattern as the body of a literal. -/
def escapeSlashes (pattern : Text) : Text :=
  (units pattern).flatMap escapeUnit

theorem IsWhole.unescapeUnit {unit : Text} (h : IsWhole unit) : IsWhole (unescapeUnit unit) := by
  unfold Regex.unescapeUnit
  split
  · exact .single (by decide)
  · exact h

theorem IsWhole.escapeUnit {unit : Text} (h : IsWhole unit) : IsWhole (escapeUnit unit) := by
  unfold Regex.escapeUnit
  split
  · exact .escape '/'
  · exact h

/-- A change of single units is seen unit by unit, if what it makes of them is whole again. -/
theorem units_flatMap {text : Text} {change : Text → Text}
    (hchange : ∀ unit, IsWhole unit → IsWhole (change unit)) (hdangling : ['\\'] ∉ units text) :
    units ((units text).flatMap change) = (units text).map change := by
  rw [List.flatMap_def, units_flatten]
  intro unit hunit
  obtain ⟨before, hbefore, rfl⟩ := List.mem_map.mp hunit
  exact hchange before (isWhole_of_mem_units hdangling hbefore)

/-- A change of single units (`units`) is undone where it is undone for each unit. -/
theorem flatMap_units_flatMap {text : Text} {change back : Text → Text}
    (hchange : ∀ unit, IsWhole unit → IsWhole (change unit)) (hdangling : ['\\'] ∉ units text)
    (hback : ∀ unit ∈ units text, back (change unit) = unit) :
    (units ((units text).flatMap change)).flatMap back = text := by
  have hunits : (units text).map (back ∘ change) = units text :=
    (List.map_congr_left hback).trans (List.map_id' _)
  rw [units_flatMap hchange hdangling, List.flatMap_def, List.map_map, hunits, flatten_units]

theorem unescapeUnit_escapeUnit {unit : Text} (h : unit ≠ ['\\', '/']) :
    unescapeUnit (escapeUnit unit) = unit := by
  unfold escapeUnit
  split
  · next hslash => rw [hslash]; rfl
  · exact if_neg h

theorem escapeUnit_unescapeUnit {unit : Text} (h : unit ≠ ['/']) :
    escapeUnit (unescapeUnit unit) = unit := by
  unfold unescapeUnit
  split
  · next hslash => rw [hslash]; rfl
  · exact if_neg h

/-- A pattern that is written into a literal comes out as it was.  It may not have an escaped slash
of its own, which would come out as a plain one. -/
theorem unescapeSlashes_escapeSlashes {pattern : Text} (hdangling : ['\\'] ∉ units pattern)
    (hescaped : ['\\', '/'] ∉ units pattern) :
    unescapeSlashes (escapeSlashes pattern) = pattern := by
  rw [unescapeSlashes_eq_flatMap, escapeSlashes]
  refine flatMap_units_flatMap (fun _ => IsWhole.escapeUnit) hdangling ?_
  intro unit hunit
  exact unescapeUnit_escapeUnit (ne_of_mem_of_not_mem hunit hescaped)

/-- A body is what its pattern is written as; it cannot have a plain slash. -/
theorem escapeSlashes_unescapeSlashes {body : Text} (h : IsRegexBody body) :
    escapeSlashes (unescapeSlashes body) = body := by
  obtain ⟨hslash, hdangling⟩ := isRegexBody_iff.mp h
  rw [unescapeSlashes_eq_flatMap, escapeSlashes]
  refine flatMap_units_flatMap (fun _ => IsWhole.unescapeUnit) hdangling ?_
  intro unit hunit
  exact escapeUnit_unescapeUnit (ne_of_mem_of_not_mem hunit hslash)

theorem isRegexBody_escapeSlashes {pattern : Text} (hdangling : ['\\'] ∉ units pattern) :
    IsRegexBody (escapeSlashes pattern) := by
  rw [isRegexBody_iff, escapeSlashes, units_flatMap (fun _ => IsWhole.escapeUnit) hdangling]
  constructor
  · -- A plain slash is escaped, and nothing else becomes one.
    intro h
    obtain ⟨unit, -, hunit⟩ := List.mem_map.mp h
    unfold escapeUnit at hunit
    split at hunit
    · simp at hunit
    · next hslash => exact hslash hunit
  · intro h
    obtain ⟨unit, hmem, hunit⟩ := List.mem_map.mp h
    unfold escapeUnit at hunit
    split at hunit
    · simp at hunit
    · exact hdangling (hunit ▸ hmem)

/-! ### What the engine gets -/

/-- The pattern of a text that goes to the regex engine (`Regex.compile`) as it is. -/
def compilePattern (pattern flags : Text) : Except Refusal Pattern :=
  match readFlags {} flags with
  | .error refusal => .error refusal
  | .ok flags =>
    match Pattern.read? flags pattern with
    | some pattern => .ok pattern
    | none => .error .pattern

/-- `compile` hands the body to the engine with its slashes unescaped. -/
theorem compile_eq_compilePattern (body flags : Text) :
    compile body flags = compilePattern (unescapeSlashes body) flags :=
  rfl

end Regex

namespace Shorthand

open Regex SelectorGrammar

/-! ### Shorthands -/

theorem scan_eq_ok_iff {text : Text} {shorthand : Shorthand} :
    scan text = some (.ok shorthand) ↔
      text = '#' :: '/' :: (shorthand.body ++ '/' :: shorthand.flags) ∧
        IsRegexBody shorthand.body := by
  constructor
  · exact scan_eq_ok
  · rintro ⟨rfl, hbody⟩
    rw [scan, SelectorReader.splitBody?_complete hbody]

theorem scan_eq_error_iff {text : Text} {error : SelectorError} :
    scan text = some (.error error) ↔
      (∃ rest, text = '#' :: '/' :: rest ∧ ['/'] ∉ units rest) ∧
        error = .unterminatedShorthand text := by
  constructor
  · intro h
    unfold scan at h
    split at h
    next rest =>
      split at h
      next => cases Option.some.inj h
      next hsplit =>
        cases Option.some.inj h
        exact ⟨⟨rest, rfl, splitBody?_eq_none_iff.mp hsplit⟩, rfl⟩
    next => cases h
  · rintro ⟨⟨rest, rfl, hslash⟩, rfl⟩
    rw [scan, splitBody?_eq_none_iff.mpr hslash]

/-- The selector for names that match the pattern, or the refusal of the literal it is written
as. -/
def ofPattern (text pattern flags : Text) : Except SelectorError Selector :=
  match compilePattern pattern flags with
  | .ok compiled =>
    .ok ⟨text, some [.compound (.mk (some "Identifier") [⟨["name"], .regex compiled false⟩] [])]⟩
  | .error refusal => .error (.invalidRegex (escapeSlashes pattern) flags refusal)

/-- A pattern that is written between slashes is read as it is, wherever a regex may stand. -/
structure ReadsBack (pattern flags : Text) : Prop where
  scan : scan ('#' :: '/' :: (escapeSlashes pattern ++ '/' :: flags)) =
    some (.ok ⟨escapeSlashes pattern, flags⟩)
  unescape : unescapeSlashes (escapeSlashes pattern) = pattern
  /-- The shorthand hands the pattern itself to the engine. -/
  shorthand :
    let text := '#' :: '/' :: (escapeSlashes pattern ++ '/' :: flags)
    Selector.compile text = ofPattern text pattern flags
  /-- So does its spelling in full. -/
  canonical : (∀ c ∈ flags, c.isAlpha = true) →
    let text := Shorthand.canonical ⟨escapeSlashes pattern, flags⟩
    Selector.compile text = ofPattern text pattern flags
  /-- So does a value in any brackets, whatever follows on the flags that is no letter. -/
  value : ∀ (op : CompareOp) (negated : Bool) (rest : Text),
    SelectorReader.regexNegated op = .ok negated → (∀ c ∈ flags, c.isAlpha = true) →
    SelectorReader.Stops Char.isAlpha rest →
    SelectorReader.valueTest op ('/' :: (escapeSlashes pattern ++ '/' :: (flags ++ rest))) =
      match compilePattern pattern flags with
      | .ok compiled => .ok (.regex compiled negated, rest)
      | .error refusal => .error (.invalidRegex (escapeSlashes pattern) flags refusal)

theorem readsBack {pattern : Text} (hdangling : ['\\'] ∉ units pattern)
    (hescaped : ['\\', '/'] ∉ units pattern) (flags : Text) : ReadsBack pattern flags := by
  have hbody : IsRegexBody (escapeSlashes pattern) := isRegexBody_escapeSlashes hdangling
  have hunescape := unescapeSlashes_escapeSlashes hdangling hescaped
  -- Shorthand and value both compile the body, so it is enough to know what that gives.
  have hcompile : Regex.compile (escapeSlashes pattern) flags = compilePattern pattern flags := by
    rw [compile_eq_compilePattern, hunescape]
  have hscan : Shorthand.scan ('#' :: '/' :: (escapeSlashes pattern ++ '/' :: flags)) =
      some (.ok ⟨escapeSlashes pattern, flags⟩) := scan_eq_ok_iff.mpr ⟨rfl, hbody⟩
  have hexpand : ∀ text : Text, (expand ⟨escapeSlashes pattern, flags⟩).map
      (fun list => Selector.mk text (some list)) = ofPattern text pattern flags := by
    intro text
    rw [expand, hcompile, ofPattern]
    cases compilePattern pattern flags with
    | ok compiled => rfl
    | error refusal => rfl
  refine ⟨hscan, hunescape, (compile_of_scan hscan).trans (hexpand _), ?_, ?_⟩
  · intro hflags
    refine (compile_canonical _).trans ?_
    rw [readList_canonical hbody hflags, hexpand]
  · intro op negated rest hnegated hflags hrest
    have hread := SelectorReader.regexTest_eq hnegated hbody hflags hrest
    rw [hcompile] at hread
    exact hread

/-- **Scanning a regex literal inverts writing one.**  With a backslash taking the next character,

* a shorthand is cut into a body and flags just when the text is put together from these, and the
  body has no slash of its own and no backslash at its end; there is one way to do this at most;
* a text that begins as a shorthand is refused just when there is no slash of its own after that;
* of a body only the escaped slashes change, and what is made of it is written as the body again;
* a pattern without escaped slashes, and without a backslash at its end, is written by escaping its
  slashes, and then it is the pattern that the engine gets, from a shorthand or from a value in
  brackets. -/
theorem scan_inverts_writing :
    (∀ (text : Text) (shorthand : Shorthand), scan text = some (.ok shorthand) ↔
      text = '#' :: '/' :: (shorthand.body ++ '/' :: shorthand.flags) ∧
        ['/'] ∉ units shorthand.body ∧ ['\\'] ∉ units shorthand.body) ∧
    (∀ body flags body' flags' : Text,
      ['/'] ∉ units body ∧ ['\\'] ∉ units body → ['/'] ∉ units body' ∧ ['\\'] ∉ units body' →
      body ++ '/' :: flags = body' ++ '/' :: flags' → body = body' ∧ flags = flags') ∧
    (∀ (text : Text) (error : SelectorError), scan text = some (.error error) ↔
      (∃ rest, text = '#' :: '/' :: rest ∧ ['/'] ∉ units rest) ∧
        error = .unterminatedShorthand text) ∧
    (∀ body : Text, unescapeSlashes body = (units body).flatMap unescapeUnit) ∧
    (∀ body : Text, ['/'] ∉ units body ∧ ['\\'] ∉ units body →
      escapeSlashes (unescapeSlashes body) = body) ∧
    ∀ pattern flags : Text, ['\\'] ∉ units pattern → ['\\', '/'] ∉ units pattern →
      ReadsBack pattern flags := by
  refine ⟨fun text shorthand => ?_, fun body flags body' flags' hbody hbody' => ?_,
    fun text error => scan_eq_error_iff, unescapeSlashes_eq_flatMap, fun body hbody => ?_,
    fun pattern flags hdangling hescaped => readsBack hdangling hescaped flags⟩
  · rw [scan_eq_ok_iff, isRegexBody_iff]
  · exact body_unique (isRegexBody_iff.mpr hbody) (isRegexBody_iff.mpr hbody')
  · exact escapeSlashes_unescapeSlashes (isRegexBody_iff.mpr hbody)

/-- An escaped backslash before a slash: three backslashes stand there when it is written. -/
theorem scan_inverts_writing_backslashes :
    escapeSlashes "é\\\\/\\d".toList = "é\\\\\\/\\d".toList ∧
      ReadsBack "é\\\\/\\d".toList "i".toList :=
  ⟨by decide, scan_inverts_writing.2.2.2.2.2 _ _ (by decide) (by decide)⟩

end Shorthand

end SyntaxGraft
