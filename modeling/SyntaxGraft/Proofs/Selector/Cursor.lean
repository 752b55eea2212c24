import SyntaxGraft.Proofs.Selector.Soundness
import SyntaxGraft.Proofs.Text.Splice
/-!
# Reading with a cursor

The readers of selectors take the text that is left and give what is left after them.  A walk reads
the same with a cursor in the whole text: it looks at the text from a byte offset on, which it can
do at a boundary only, and goes from offset to offset.  A walk gives nothing when it looks at the
text from inside a character, or when a loop goes round more often than a bound allows.

A cursor keeps the offsets at which it has stood, and the rounds that are over.  `Cursor.At` says
that they are as they should be: no offset is less than one before it, each is a boundary, and each
round has taken a character.  `Walk.Follows` says that from such a cursor a walk comes to an end at
such a cursor, under every bound above the length of the text, and gives what a reader gives.  It
holds of the moves that walks are made of, and goes through `do` by `Walk.Follows.bind`.
-/

namespace SyntaxGraft

open SelectorReader (Fault)

/-! ### Cursors -/

/-- What a walk goes through again and again. -/
inductive Loop where
  /-- A comma and the alternative after it. -/
  | alternatives
  /-- What joins two compounds, and the second of them. -/
  | chain
  /-- An attribute or a pseudo-class. -/
  | parts
  /-- A selector list in parentheses. -/
  | nested
deriving DecidableEq

/-- One time through a `loop`, from one offset to another. -/
structure Round where
  loop : Loop
  start : Nat
  stop : Nat
deriving DecidableEq

/-- A place in a text, and how it was come to. -/
structure Cursor where
  offset : Nat := 0
  /-- The offsets up to the present one, in the order of time. -/
  trail : List Nat := [0]
  /-- The rounds that are over, in the order of time. -/
  rounds : List Round := []

/-- The text between the ends of the round is not empty. -/
def Round.Consumes (round : Round) (text : Text) : Prop :=
  ∃ before taken after, text = before ++ (taken ++ after) ∧ taken ≠ [] ∧
    Text.size before = round.start ∧ Text.size (before ++ taken) = round.stop

/-- The cursor stands before `rest`, at the end of a trail and of rounds as they should be.  This is
the invariant of reading; `Cursor.At.move` and `Cursor.At.note` keep it. -/
structure Cursor.At (cursor : Cursor) (text rest : Text) : Prop where
  here : ∃ before, text = before ++ rest ∧ Text.size before = cursor.offset
  last : cursor.trail.getLast? = some cursor.offset
  forward : cursor.trail.Pairwise (· ≤ ·)
  behind : ∀ offset ∈ cursor.trail, Text.IsBoundary text offset ∧ offset ≤ cursor.offset
  rounds : ∀ round ∈ cursor.rounds, round.Consumes text

/-- The place that the error names is one of the text, and holds what the error says. -/
def SelectorError.PointsInto (text : Text) : SelectorError → Prop
  | .unexpected selector offset found =>
    selector = text ∧ ∃ before after, text = before ++ found :: after ∧ Text.size before = offset
  | .expected selector offset _ => selector = text ∧ Text.IsBoundary text offset
  | _ => True

/-- What a walk is on: the text, and how often a loop may go round in it. -/
structure Ground where
  text : Text
  bound : Nat

/-- A step of reading with a cursor, which is kept when the step fails (`SelectorError`). -/
abbrev Walk := ReaderT Ground (ExceptT SelectorError (StateT Cursor Option))

namespace Walk

/-! ### Moves -/

/-- What the walk comes to from a `cursor`, and the cursor then. -/
def runFrom {α : Type} (walk : Walk α) (text : Text) (bound : Nat) (cursor : Cursor) :
    Option (Except SelectorError α × Cursor) :=
  ((walk.run ⟨text, bound⟩).run).run cursor

/-- The end of a walk that goes round too often: `none`, which is no error of the text. -/
def exhausted {α : Type} : Walk α := fun _ _ =>
  none

/-- A loop, given the `bound` of the walk. -/
def bounded {α : Type} (loop : Nat → Walk α) : Walk α := fun ground =>
  loop ground.bound ground

/-- The offset of the cursor. -/
def here : Walk Nat := fun _ cursor =>
  some (.ok cursor.offset, cursor)

/-- The whole text. -/
def whole : Walk Text := fun ground cursor =>
  some (.ok ground.text, cursor)

/-- The text from the cursor on.  Inside of a character there is none. -/
def ahead : Walk Text := fun ground cursor =>
  (Text.splitAt? ground.text cursor.offset).map fun (_, rest) => (.ok rest, cursor)

/-- Puts the cursor to an offset, whichever it is. -/
def moveTo (offset : Nat) : Walk Unit := fun _ cursor =>
  some (.ok (), { cursor with offset := offset, trail := cursor.trail ++ [offset] })

/-- Notes that a round is over which began at the offset `start`. -/
def note (loop : Loop) (start : Nat) : Walk Unit := fun _ cursor =>
  some (.ok (), { cursor with rounds := cursor.rounds ++ [⟨loop, start, cursor.offset⟩] })

/-- Fails for what is lacking at an offset (`SelectorError.expected`). -/
def missingAt {α : Type} (offset : Nat) (what : Expectation) : Walk α := do
  throw (.expected (← whole) offset what)

/-- Fails for what is lacking at the cursor (`here`). -/
def missing {α : Type} (what : Expectation) : Walk α := do
  missingAt (← here) what

/-- Fails for a character `found` at the cursor. -/
def stray {α : Type} (found : Char) : Walk α := do
  throw (.unexpected (← whole) (← here) found)

/-- The character at the cursor, `none` at the end. -/
def peek : Walk (Option Char) :=
  return (← ahead).head?

/-- Moves on by the size of a text (`Text.size`). -/
def advance (taken : Text) : Walk Unit := do
  moveTo ((← here) + Text.size taken)

/-- Moves over the character at the cursor. -/
def next : Walk (Option Char) := do
  match ← peek with
  | some c =>
    advance [c]
    return some c
  | none => return none

/-- Moves over a given character, if it stands at the cursor. -/
def eat (c : Char) : Walk Bool := do
  if (← peek) = some c then
    let _ ← next
    return true
  else return false

/-- Moves over a given text, if it stands at the cursor. -/
def eatAll (word : Text) : Walk Bool := do
  if word.isPrefixOf (← ahead) then
    advance word
    return true
  else return false

/-- Moves over a given character, which has to stand at the cursor. -/
def expect (c : Char) (what : Expectation) : Walk Unit := do
  if ← eat c then return () else missing what

/-- Moves over characters of a kind one by one. -/
def scanWithin (among : Char → Bool) : Nat → Walk Text
  | 0 => exhausted
  | bound + 1 => do
    match ← peek with
    | some c =>
      if among c then
        let _ ← next
        return c :: (← scanWithin among bound)
      else return []
    | none => return []

/-- Moves over all characters of a kind; the `bound` is that of the walk. -/
def scan (among : Char → Bool) : Walk Text :=
  bounded (scanWithin among)

/-- Moves over blanks (`isBlank`). -/
def skipBlank : Walk Unit := do
  let _ ← scan isBlank

end Walk

/-! ### Walks and readers -/

namespace Cursor.At

variable {cursor : Cursor} {text rest : Text}

/-- Reading begins before the whole text. -/
theorem start (text : Text) : Cursor.At {} text text where
  here := ⟨[], rfl, rfl⟩
  last := rfl
  forward := List.pairwise_singleton _ 0
  behind := by
    rw [List.forall_mem_singleton]
    exact ⟨⟨[], text, rfl, rfl⟩, Nat.le_refl 0⟩
  rounds := List.forall_mem_nil _

theorem offset_eq (h : cursor.At text rest) :
    cursor.offset = Text.size text - Text.size rest := by
  obtain ⟨before, rfl, hoffset⟩ := h.here
  rw [Text.size_append, ← hoffset]
  omega

/-- What is ahead of a cursor is found there: `splitAt?` cuts at a boundary. -/
theorem splitAt? (h : cursor.At text rest) :
    ∃ before, Text.splitAt? text cursor.offset = some (before, rest) := by
  obtain ⟨before, rfl, hoffset⟩ := h.here
  exact ⟨before, by rw [← hoffset, Text.splitAt?_append]⟩

/-- The cursor may go forward over any piece of what is ahead. -/
theorem move {taken after : Text} (h : cursor.At text (taken ++ after)) {offset : Nat}
    (hoffset : offset = cursor.offset + Text.size taken) :
    Cursor.At { cursor with offset := offset, trail := cursor.trail ++ [offset] } text after := by
  obtain ⟨before, htext, hbefore⟩ := h.here
  have hstands : text = (before ++ taken) ++ after ∧ Text.size (before ++ taken) = offset := by
    refine ⟨by rw [htext, List.append_assoc], ?_⟩
    rw [Text.size_append, hbefore, hoffset]
  have hforward : cursor.offset ≤ offset := by omega
  refine ⟨⟨before ++ taken, hstands⟩, List.getLast?_concat, ?_, ?_, h.rounds⟩
  · -- No offset of the trail is beyond the present one, which is not beyond the new one.
    rw [List.pairwise_append]
    refine ⟨h.forward, List.pairwise_singleton _ _, ?_⟩
    intro earlier hearlier later hlater
    rw [List.mem_singleton.mp hlater]
    exact (h.behind earlier hearlier).2.trans hforward
  · rw [List.forall_mem_append, List.forall_mem_singleton]
    refine ⟨fun earlier hearlier => ?_, ⟨before ++ taken, after, hstands⟩, Nat.le_refl _⟩
    obtain ⟨hboundary, hle⟩ := h.behind earlier hearlier
    exact ⟨hboundary, hle.trans hforward⟩

/-- A round that has taken something may be noted. -/
theorem note {start : Nat} {taken : Text} (h : cursor.At text rest) (hne : taken ≠ [])
    (hstart : start = Text.size text - Text.size (taken ++ rest))
    (hsuffix : taken ++ rest <:+ text) (loop : Loop) :
    Cursor.At { cursor with rounds := cursor.rounds ++ [⟨loop, start, cursor.offset⟩] } text
      rest := by
  -- Nothing but the rounds changes; the new one has `taken` between its ends.
  refine ⟨h.here, h.last, h.forward, h.behind, ?_⟩
  rw [List.forall_mem_append, List.forall_mem_singleton]
  refine ⟨h.rounds, ?_⟩
  obtain ⟨before, htext⟩ := hsuffix
  have hsize : Text.size text = Text.size before + (Text.size taken + Text.size rest) := by
    rw [← htext, Text.size_append, Text.size_append]
  rw [Text.size_append] at hstart
  have hoffset := h.offset_eq
  refine ⟨before, taken, rest, htext.symm, hne, ?_, ?_⟩
  · show Text.size before = start
    omega
  · show Text.size (before ++ taken) = cursor.offset
    rw [Text.size_append]
    omega

end Cursor.At

namespace Walk

variable {α β : Type} {text t : Text}

/-- From a cursor before `t`, and under every bound above the length of the text, the walk comes to
an end and gives what a reader gives that is given `t`: the value, at a cursor before what is left,
or the error of the fault, which points into the text. -/
def Follows (walk : Walk α) (text t : Text) (result : Except Fault (α × Text)) : Prop :=
  ∀ bound, text.length < bound → ∀ cursor : Cursor, cursor.At text t →
    match result with
    | .ok (value, rest) =>
      ∃ cursor' : Cursor,
        walk.runFrom text bound cursor = some (.ok value, cursor') ∧ cursor'.At text rest
    | .error fault =>
      ∃ (cursor' : Cursor) (rest : Text),
        walk.runFrom text bound cursor = some (.error (fault.locate text), cursor') ∧
          cursor'.At text rest ∧ (fault.locate text).PointsInto text

/-- A cursor stands before ends of the text only, so `Follows` may be shown for these alone. -/
theorem Follows.of_suffix {walk : Walk α} {result : Except Fault (α × Text)}
    (h : t <:+ text → walk.Follows text t result) : walk.Follows text t result := by
  intro bound hbound cursor hat
  obtain ⟨before, htext, -⟩ := hat.here
  exact h ⟨before, htext.symm⟩ bound hbound cursor hat

/-- A loop (`bounded`) follows a reader where it does so with any bound above the length of what is
ahead. -/
theorem follows_bounded {loop : Nat → Walk α} {result : Except Fault (α × Text)}
    (h : ∀ bound, t.length < bound → (loop bound).Follows text t result) :
    (bounded loop).Follows text t result := by
  intro bound hbound cursor hat
  obtain ⟨before, htext, -⟩ := hat.here
  have hlength : t.length ≤ text.length := by
    rw [htext, List.length_append]
    omega
  exact h bound (by omega) bound hbound cursor hat

theorem follows_pure (value : α) : (pure value : Walk α).Follows text t (.ok (value, t)) :=
  fun _ _ cursor hat => ⟨cursor, rfl, hat⟩

/-- Walks one after the other follow readers (`Follows`) one after the other. -/
theorem Follows.bind {walk : Walk α} {next : α → Walk β} {result : Except Fault (α × Text)}
    {resultNext : α × Text → Except Fault (β × Text)} (h : walk.Follows text t result)
    (hnext : ∀ value rest, result = .ok (value, rest) →
      (next value).Follows text rest (resultNext (value, rest))) :
    (walk >>= next).Follows text t (result >>= resultNext) := by
  intro bound hbound cursor hat
  cases result with
  | error fault =>
    -- The second walk is not begun, and the cursor stays where the first one failed.
    obtain ⟨cursor', rest, hrun, hat', hpoints⟩ := h bound hbound cursor hat
    refine ⟨cursor', rest, ?_, hat', hpoints⟩
    show (walk.runFrom text bound cursor).bind _ = _
    rw [hrun]
    rfl
  | ok read =>
    obtain ⟨value, rest⟩ := read
    obtain ⟨cursor', hrun, hat'⟩ := h bound hbound cursor hat
    have hrunNext :
        (walk >>= next).runFrom text bound cursor = (next value).runFrom text bound cursor' := by
      show (walk.runFrom text bound cursor).bind _ = _
      rw [hrun]
      rfl
    have hfollows := hnext value rest rfl bound hbound cursor' hat'
    show match resultNext (value, rest) with
      | .ok (value, rest) => _
      | .error fault => _
    rw [hrunNext]
    exact hfollows

/-- `Follows.bind` for a first walk that does not fail. -/
theorem Follows.andThen {walk : Walk α} {next : α → Walk β} {value : α} {rest : Text}
    {result : Except Fault (β × Text)} (h : walk.Follows text t (.ok (value, rest)))
    (hnext : (next value).Follows text rest result) : (walk >>= next).Follows text t result := by
  show (walk >>= next).Follows text t (Except.ok (value, rest) >>= fun _ => result)
  refine h.bind ?_
  rintro _ _ ⟨⟩
  exact hnext

/-! ### What the moves do -/

theorem follows_here : here.Follows text t (.ok (Text.size text - Text.size t, t)) := by
  intro bound hbound cursor hat
  exact ⟨cursor, by rw [← hat.offset_eq]; rfl, hat⟩

theorem follows_whole : whole.Follows text t (.ok (text, t)) :=
  fun _ _ cursor hat => ⟨cursor, rfl, hat⟩

theorem follows_ahead : ahead.Follows text t (.ok (t, t)) := by
  intro bound hbound cursor hat
  obtain ⟨before, hcut⟩ := hat.splitAt?
  refine ⟨cursor, ?_, hat⟩
  show (Text.splitAt? text cursor.offset).map _ = _
  rw [hcut]
  rfl

/-- An offset may be told by the size of what is left behind it. -/
theorem follows_moveTo (taken rest : Text) :
    (moveTo (Text.size text - Text.size rest)).Follows text (taken ++ rest) (.ok ((), rest)) := by
  intro bound hbound cursor hat
  refine ⟨_, rfl, hat.move ?_⟩
  obtain ⟨before, htext, hbefore⟩ := hat.here
  rw [htext, Text.size_append, Text.size_append, hbefore]
  omega

/-- Where something was taken since the start of a round, the round may be noted. -/
theorem follows_note {taken rest : Text} (hne : taken ≠ []) (hsuffix : taken ++ rest <:+ text)
    (loop : Loop) :
    (note loop (Text.size text - Text.size (taken ++ rest))).Follows text rest
      (.ok ((), rest)) :=
  fun _ _ _ hat => ⟨_, rfl, hat.note hne rfl hsuffix loop⟩

theorem follows_throw (fault : Fault) (h : (fault.locate text).PointsInto text) :
    (throw (fault.locate text) : Walk α).Follows text t (.error fault) :=
  fun _ _ cursor hat => ⟨cursor, t, rfl, hat, h⟩

/-- What is lacking may be lacking at an end of the text other than the one ahead. -/
theorem follows_missingAt (what : Expectation) {rest : Text} (hsuffix : rest <:+ text) :
    (missingAt (Text.size text - Text.size rest) what : Walk α).Follows text t
      (.error (.expected what rest)) := by
  refine follows_whole.andThen (follows_throw (.expected what rest) ?_)
  obtain ⟨before, rfl⟩ := hsuffix
  refine ⟨rfl, before, rest, rfl, ?_⟩
  rw [Text.size_append]
  omega

theorem follows_missing (what : Expectation) :
    (missing what : Walk α).Follows text t (.error (.expected what t)) :=
  Follows.of_suffix fun hsuffix => follows_here.andThen (follows_missingAt what hsuffix)

theorem follows_stray (found : Char) (after : Text) :
    (stray found : Walk α).Follows text (found :: after) (.error (.unexpected found after)) := by
  refine Follows.of_suffix fun hsuffix =>
    follows_whole.andThen (follows_here.andThen (follows_throw (.unexpected found after) ?_))
  obtain ⟨before, rfl⟩ := hsuffix
  refine ⟨rfl, before, after, rfl, ?_⟩
  rw [Text.size_append]
  omega

theorem follows_peek : peek.Follows text t (.ok (t.head?, t)) :=
  follows_ahead.andThen (follows_pure _)

theorem follows_advance (taken rest : Text) :
    (advance taken).Follows text (taken ++ rest) (.ok ((), rest)) := by
  refine Follows.of_suffix fun hsuffix => follows_here.andThen ?_
  obtain ⟨before, rfl⟩ := hsuffix
  have hoffset : Text.size (before ++ (taken ++ rest)) - Text.size (taken ++ rest)
      + Text.size taken = Text.size (before ++ (taken ++ rest)) - Text.size rest := by
    simp only [Text.size_append]
    omega
  rw [hoffset]
  exact follows_moveTo taken rest

theorem follows_next_nil : next.Follows text [] (.ok (none, [])) :=
  follows_peek.andThen (follows_pure none)

theorem follows_next_cons (c : Char) (t : Text) :
    next.Follows text (c :: t) (.ok (some c, t)) :=
  follows_peek.andThen ((follows_advance [c] t).andThen (follows_pure (some c)))

theorem follows_eat_self (c : Char) (t : Text) :
    (eat c).Follows text (c :: t) (.ok (true, t)) := by
  refine follows_peek.andThen ?_
  rw [List.head?_cons, if_pos rfl]
  exact (follows_next_cons c t).andThen (follows_pure true)

theorem head?_ne_some {c : Char} (h : ∀ rest, t ≠ c :: rest) : t.head? ≠ some c := by
  intro hhead
  obtain ⟨rest, ht⟩ := List.head?_eq_some_iff.mp hhead
  exact h rest ht

theorem follows_eat_other {c : Char} (h : ∀ rest, t ≠ c :: rest) :
    (eat c).Follows text t (.ok (false, t)) := by
  refine follows_peek.andThen ?_
  rw [if_neg (head?_ne_some h)]
  exact follows_pure false

theorem follows_eatAll_self (word t : Text) :
    (eatAll word).Follows text (word ++ t) (.ok (true, t)) := by
  refine follows_ahead.andThen ?_
  rw [if_pos (List.isPrefixOf_iff_prefix.mpr (List.prefix_append word t))]
  exact (follows_advance word t).andThen (follows_pure true)

theorem follows_eatAll_other {word : Text} (h : ¬ word <+: t) :
    (eatAll word).Follows text t (.ok (false, t)) := by
  refine follows_ahead.andThen ?_
  rw [if_neg (mt List.isPrefixOf_iff_prefix.mp h)]
  exact follows_pure false

/-- A walk behind a character that has to be there (`expect`). -/
theorem Follows.expect {c : Char} {what : Expectation} {next : Unit → Walk α}
    {resultNext : Text → Except Fault (α × Text)}
    (hnext : ∀ rest, t = c :: rest → (next ()).Follows text rest (resultNext rest)) :
    (expect c what >>= next).Follows text t (SelectorReader.char c what t >>= resultNext) := by
  by_cases h : ∃ rest, t = c :: rest
  · obtain ⟨rest, rfl⟩ := h
    rw [SelectorReader.char_eq_ok.mpr rfl]
    exact ((follows_eat_self c rest).andThen (follows_pure ())).andThen (hnext rest rfl)
  · have hother := not_exists.mp h
    have herror : SelectorReader.char c what t = .error (.expected what t) := by
      cases t with
      | nil => rfl
      | cons d t => exact if_neg fun hd => hother t (congrArg (· :: t) hd)
    have hexpect : (Walk.expect c what).Follows text t (.error (.expected what t)) :=
      (follows_eat_other hother).andThen (follows_missing what)
    rw [herror]
    show Follows _ _ _ (Except.error (.expected what t) >>= fun read : Unit × Text =>
      resultNext read.2)
    refine hexpect.bind ?_
    rintro _ _ ⟨⟩

/-- By induction on what is ahead, which every character taken makes shorter; `bound` counts the
look at the character that is left, so it has to be greater. -/
theorem follows_scanWithin (among : Char → Bool) {bound : Nat} (hbound : t.length < bound) :
    (scanWithin among bound).Follows text t (.ok (t.takeWhile among, t.dropWhile among)) := by
  induction t generalizing bound with
  | nil =>
    obtain ⟨bound, rfl⟩ := Nat.exists_eq_add_one.mpr (Nat.zero_lt_of_lt hbound)
    exact follows_peek.andThen (follows_pure [])
  | cons c t ih =>
    obtain ⟨bound, rfl⟩ := Nat.exists_eq_add_one.mpr (Nat.zero_lt_of_lt hbound)
    refine follows_peek.andThen ?_
    dsimp only [List.head?_cons]
    by_cases hc : among c = true
    · have hrest := ih (Nat.lt_of_succ_lt_succ hbound)
      rw [if_pos hc, List.takeWhile_cons_of_pos hc, List.dropWhile_cons_of_pos hc]
      exact (follows_next_cons c t).andThen (hrest.andThen (follows_pure _))
    · rw [if_neg hc, List.takeWhile_cons_of_neg hc, List.dropWhile_cons_of_neg hc]
      exact follows_pure []

theorem follows_scan (among : Char → Bool) :
    (scan among).Follows text t (.ok (t.takeWhile among, t.dropWhile among)) :=
  follows_bounded fun _ hbound => follows_scanWithin among hbound

theorem follows_skipBlank : skipBlank.Follows text t (.ok ((), Text.skipBlank t)) :=
  (follows_scan isBlank).andThen (follows_pure ())

end Walk

end SyntaxGraft
