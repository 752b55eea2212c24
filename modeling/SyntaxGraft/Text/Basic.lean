/-!
# Program text addressed by byte offsets

A text is its list of characters.  Parsers and spans address it by the offsets of its UTF-8
encoding, so the basic operation is to cut a text at a byte offset: `Text.splitAt? t n` succeeds
exactly when `n` is a character boundary of `t`, and then gives the two halves
(`append_of_splitAt?`, `size_of_splitAt?`).  `Text.slice?` is two cuts.
-/

namespace SyntaxGraft

/-- A text: its characters in order. -/
abbrev Text := List Char

namespace Text

/-! ### Size and cuts -/

/-- The number of bytes of the UTF-8 encoding. -/
def size : Text → Nat
  | [] => 0
  | c :: t => c.utf8Size + size t

/-- The two halves of `t` at byte offset `n`, when `n` is a character boundary. -/
def splitAt? : Text → Nat → Option (Text × Text)
  | t, 0 => some ([], t)
  | [], _ + 1 => none
  | c :: t, n + 1 =>
    if c.utf8Size ≤ n + 1 then
      (splitAt? t (n + 1 - c.utf8Size)).map fun (before, after) => (c :: before, after)
    else
      none

/-- The text between two byte offsets, when both are character boundaries in order. -/
def slice? (t : Text) (start stop : Nat) : Option Text :=
  if start ≤ stop then do
    let (_, after) ← splitAt? t start
    let (middle, _) ← splitAt? after (stop - start)
    return middle
  else
    none

/-- The text between two byte offsets; empty where `slice?` has no answer. -/
def slice (t : Text) (start stop : Nat) : Text :=
  (slice? t start stop).getD []

@[simp]
theorem size_nil : size [] = 0 := rfl

@[simp]
theorem size_cons (c : Char) (t : Text) : size (c :: t) = c.utf8Size + size t := rfl

@[simp]
theorem size_append (s t : Text) : size (s ++ t) = size s + size t := by
  induction s with
  | nil => simp
  | cons c s ih => simp [ih, Nat.add_assoc]

/-- A cut loses nothing. -/
theorem append_of_splitAt? {t before after : Text} {n : Nat}
    (h : splitAt? t n = some (before, after)) : before ++ after = t := by
  induction t generalizing n before with
  | nil =>
    cases n with
    | zero => simp_all [splitAt?]
    | succ n => simp [splitAt?] at h
  | cons c t ih =>
    cases n with
    | zero => simp_all [splitAt?]
    | succ n =>
      rw [splitAt?] at h
      split at h
      · obtain ⟨⟨before', after'⟩, hcut, heq⟩ := Option.map_eq_some_iff.1 h
        obtain ⟨rfl, rfl⟩ := Prod.mk.inj heq
        simp [ih hcut]
      · cases h

/-- The first half of a cut has the size asked for. -/
theorem size_of_splitAt? {t before after : Text} {n : Nat}
    (h : splitAt? t n = some (before, after)) : size before = n := by
  induction t generalizing n before with
  | nil =>
    cases n with
    | zero => simp_all [splitAt?]
    | succ n => simp [splitAt?] at h
  | cons c t ih =>
    cases n with
    | zero => simp_all [splitAt?]
    | succ n =>
      rw [splitAt?] at h
      split at h
      · obtain ⟨⟨before', after'⟩, hcut, heq⟩ := Option.map_eq_some_iff.1 h
        obtain ⟨rfl, rfl⟩ := Prod.mk.inj heq
        have := ih hcut
        simp only [size_cons]
        omega
      · cases h

/-! ### Lines and columns -/

/-- The one-based line and byte column reached from `(line, column)` by reading `n` bytes. -/
def locateFrom (line column : Nat) : Text → Nat → Nat × Nat
  | _, 0 => (line, column)
  | [], _ + 1 => (line, column)
  | c :: t, n + 1 =>
    if c = '\n' then locateFrom (line + 1) 1 t n
    else locateFrom line (column + c.utf8Size) t (n + 1 - c.utf8Size)

/-- The one-based line and byte column of a byte offset. -/
def locate (t : Text) (offset : Nat) : Nat × Nat :=
  locateFrom 1 1 t offset

/-- The first line, without its terminator: a line feed, with the carriage return before it. -/
def firstLine (t : Text) : Text :=
  let line := t.takeWhile (· ≠ '\n')
  if line.length < t.length && line.getLast? == some '\r' then line.dropLast else line

/-! ### Words -/

/-- The maximal runs between separators, empty ones included. -/
def splitWords (separator : Char) : Text → List Text
  | [] => [[]]
  | c :: rest =>
    if c = separator then [] :: splitWords separator rest
    else match splitWords separator rest with
      | [] => [[c]]
      | word :: words => (c :: word) :: words

end Text

end SyntaxGraft
