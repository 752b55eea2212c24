import Mathlib.Data.List.Forall2
import SyntaxGraft.Text.Blank
import SyntaxGraft.Unicode.Letter
/-!
# Blanks are no letters

No character is both blank and alphanumeric (`isAlphanumeric_of_isBlank`), so a name ends where a
blank begins.  ASCII is decided by arithmetic.  Beyond it the blanks are few, and every range of the
tables of letters and numbers lies in a gap between two of them.
-/

namespace SyntaxGraft

namespace Unicode

/-- The ranges of code points that are not blank, the most frequent in the tables first.  ASCII has
blanks too, but the tables are not asked for them. -/
def blankGaps : List CharRange :=
  [⟨0x3001, lastCode⟩, ⟨0xA1, 0x167F⟩, ⟨0x2060, 0x2FFF⟩, ⟨0x1681, 0x1FFF⟩, ⟨0, 0x84⟩,
    ⟨0x200B, 0x2027⟩, ⟨0x202A, 0x202E⟩, ⟨0x2030, 0x205E⟩, ⟨0x86, 0x9F⟩]

/-- The range lies in a gap between blanks (`blankGaps`). -/
def CharRange.isBlankFree (range : CharRange) : Bool :=
  blankGaps.any fun gap => Nat.ble gap.first range.first && Nat.ble range.last gap.last

/-- A range in a gap of `blankGaps` holds no blank beyond ASCII. -/
theorem CharRange.contains_eq_false {range : CharRange} (h : range.isBlankFree = true) {c : Char}
    (hblank : isBlank c = true) (hwide : 128 ≤ c.toNat) : range.contains c.toNat = false := by
  simp only [isBlankFree, List.any_eq_true, Bool.and_eq_true, Nat.ble_eq] at h
  obtain ⟨gap, hgap, hfirst, hlast⟩ := h
  -- No blank lies in any of the gaps, by the definition of `isBlank`.
  have houtside : ∀ gap ∈ blankGaps, ¬ (gap.first ≤ c.toNat ∧ c.toNat ≤ gap.last) := by
    simp only [isBlank, Bool.or_eq_true, Bool.and_eq_true, decide_eq_true_eq, beq_iff_eq] at hblank
    simp only [blankGaps, List.forall_mem_cons]
    unfold lastCode
    refine ⟨?_, ?_, ?_, ?_, ?_, ?_, ?_, ?_, ?_, List.forall_mem_nil _⟩ <;> omega
  have hgap := houtside gap hgap
  rw [contains, Bool.and_eq_false_iff, decide_eq_false_iff_not, decide_eq_false_iff_not]
  omega

/-- Every range of the line of a table (`CharRange.ofWord`) lies in a gap. -/
def lineIsBlankFree (line : Text) : Bool :=
  (Text.splitWords ' ' line).all fun word => (CharRange.ofWord word).isBlankFree

namespace CharSet

/-- The set holds no blank (`isBlank`) beyond ASCII. -/
def BlankFree (set : CharSet) : Prop :=
  ∀ c : Char, isBlank c = true → 128 ≤ c.toNat → set.contains c = false

theorem BlankFree.union {a b : CharSet} (ha : a.BlankFree) (hb : b.BlankFree) :
    (a.union b).BlankFree := by
  intro c hblank hwide
  rw [contains, mem_union]
  exact Bool.or_eq_false_iff.mpr ⟨ha c hblank hwide, hb c hblank hwide⟩

/-- Nor does a union of such sets, however it is put together. -/
theorem blankFree_unions {sets : List CharSet} (h : ∀ set ∈ sets, set.BlankFree) :
    (unions sets).BlankFree := by
  have hfold : ∀ start : CharSet, start.BlankFree → (sets.foldl CharSet.union start).BlankFree := by
    induction sets with
    | nil => exact fun start hstart => hstart
    | cons set rest ih =>
      intro start hstart
      obtain ⟨hset, hrest⟩ := List.forall_mem_cons.mp h
      exact ih hrest (start.union set) (hstart.union hset)
  exact hfold empty (fun _ _ _ => rfl)

/-- The lines are searched as the lists of their characters. -/
theorem blankFree_ofLines {lines : List Text} {strings : List String}
    (h : List.Forall₂ (fun line string => string = String.ofList line) lines strings)
    (hlines : lines.all lineIsBlankFree = true) : (ofLines strings).BlankFree := by
  intro c hblank hwide
  unfold contains mem ofLines
  induction h with
  | nil => rfl
  | @cons line string lines strings hstring _ ih =>
    obtain ⟨hline, hrest⟩ := Bool.and_eq_true_iff.mp hlines
    have hany : ((Text.splitWords ' ' line).map CharRange.ofWord).any (·.contains c.toNat)
        = false := by
      rw [lineIsBlankFree, List.all_eq_true] at hline
      rw [List.any_map, List.any_eq_false]
      intro word hword
      rw [Function.comp, CharRange.contains_eq_false (hline word hword) hblank hwide]
      exact Bool.false_ne_true
    rw [List.flatMap_cons, List.any_append, ih hrest, hstring, String.toList_ofList, hany,
      Bool.or_false]

/-- No table of letters or numbers has a blank (`CharSet.BlankFree`). -/
theorem blankFree_tables : ∀ table ∈ [Category.uppercaseLetter, Category.lowercaseLetter,
      Category.titlecaseLetter, Category.modifierLetter, Category.otherLetter,
      Category.decimalNumber, Category.letterNumber, Category.otherNumber, otherAlphabetic,
      addedAlphabetic, addedNumber], table.BlankFree := by
  simp only [List.forall_mem_cons]
  refine ⟨?_, ?_, ?_, ?_, ?_, ?_, ?_, ?_, ?_, ?_, ?_, List.forall_mem_nil _⟩
  all_goals
    apply blankFree_ofLines
    -- The characters of a line are found by unification: the kernel is slow to decode strings.
    case h =>
      repeat (apply List.Forall₂.cons; exact rfl)
      exact .nil
    case hlines => decide +kernel

/-- What `isAlphanumeric` asks beyond ASCII is a union of the tables. -/
theorem blankFree_nameAlphanumeric : nameAlphanumeric.BlankFree := by
  have htables := blankFree_tables
  simp only [List.forall_mem_cons] at htables
  obtain ⟨huppercase, hlowercase, htitlecase, hmodifier, hotherLetter, hdecimal, hletterNumber,
    hotherNumber, hotherAlphabetic, haddedAlphabetic, haddedNumber, _⟩ := htables
  have hletter : letter.BlankFree := by
    apply blankFree_unions
    simp only [List.forall_mem_cons]
    exact ⟨huppercase, hlowercase, htitlecase, hmodifier, hotherLetter, List.forall_mem_nil _⟩
  have hnumber : number.BlankFree := by
    apply blankFree_unions
    simp only [List.forall_mem_cons]
    exact ⟨hdecimal, hletterNumber, hotherNumber, List.forall_mem_nil _⟩
  have halphabetic : alphabetic.BlankFree := by
    apply blankFree_unions
    simp only [List.forall_mem_cons]
    exact ⟨hletter, hletterNumber, hotherAlphabetic, List.forall_mem_nil _⟩
  apply blankFree_unions
  simp only [List.forall_mem_cons]
  exact ⟨halphabetic.union haddedAlphabetic, hnumber, haddedNumber, List.forall_mem_nil _⟩

end CharSet

/-- **Blanks are no letters and no numbers** (`isBlank`, `isAlphanumeric`). -/
theorem isAlphanumeric_of_isBlank {c : Char} (h : isBlank c = true) : isAlphanumeric c = false := by
  unfold isAlphanumeric
  by_cases hascii : c.toNat < 128
  · -- The blanks of ASCII are six.
    have hcodes : ∀ code ∈ [9, 10, 11, 12, 13, 32], (Char.ofNat code).isAlphanum = false := by
      decide
    have hcode : c.toNat ∈ [9, 10, 11, 12, 13, 32] := by
      simp only [isBlank, Bool.or_eq_true, Bool.and_eq_true, decide_eq_true_eq, beq_iff_eq] at h
      simp only [List.mem_cons, List.not_mem_nil, or_false]
      omega
    rw [if_pos hascii, ← Char.ofNat_toNat c]
    exact hcodes c.toNat hcode
  · rw [if_neg hascii]
    exact CharSet.blankFree_nameAlphanumeric c h (by omega)

end Unicode

end SyntaxGraft
