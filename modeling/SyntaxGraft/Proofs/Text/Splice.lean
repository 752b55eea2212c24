import SyntaxGraft.Tree.Print
import Mathlib.Data.List.Sort
/-!
# Cutting and splicing texts

A byte offset is a boundary of a text when it does not fall inside a character
(`Text.IsBoundary`).  Between boundaries slices compose (`Text.slice_append_slice`).

`Spliced offset edits before after` says that `after` is `before`, a text that begins at byte
`offset` of some longer one, with the byte range of each edit replaced by the edit's text and all
other bytes in place.  Splices next to each other compose (`Spliced.append`), and so do splices
inside the ranges of a splice: that is what the printer does (`Printing.spliced_splice`).  Where all
that is put in was there before, the text stays as it is, and no cut fails
(`Printing.cutSplice?_of_slices`).
-/

namespace SyntaxGraft

/-! ### Boundaries -/

namespace Text

/-- The offset does not fall inside a character or beyond the end. -/
def IsBoundary (text : Text) (offset : Nat) : Prop :=
  ∃ before after, text = before ++ after ∧ size before = offset

theorem size_eq_zero_iff {text : Text} : size text = 0 ↔ text = [] := by
  cases text with
  | nil => simp
  | cons c rest =>
    have := c.utf8Size_pos
    simp
    omega

/-- A cut where two parts meet gives the two parts (`Text.splitAt?` counts bytes). -/
theorem splitAt?_append (before after : Text) :
    splitAt? (before ++ after) (size before) = some (before, after) := by
  induction before with
  | nil => cases after <;> rfl
  | cons c rest ih =>
    -- The whole character `c` is passed over, and the cut is made in the rest.
    have hpos := c.utf8Size_pos
    obtain ⟨n, hn⟩ : ∃ n, size (c :: rest) = n + 1 :=
      ⟨size (c :: rest) - 1, by rw [size_cons]; omega⟩
    have hle : c.utf8Size ≤ n + 1 := by rw [← hn, size_cons]; omega
    have hrest : n + 1 - c.utf8Size = size rest := by rw [← hn, size_cons]; omega
    rw [List.cons_append, hn, splitAt?, if_pos hle, hrest, ih]
    rfl

theorem isBoundary_iff {text : Text} {offset : Nat} :
    IsBoundary text offset ↔ (splitAt? text offset).isSome = true := by
  constructor
  · rintro ⟨before, after, rfl, rfl⟩
    rw [splitAt?_append]
    rfl
  · intro h
    obtain ⟨⟨before, after⟩, hcut⟩ := Option.isSome_iff_exists.mp h
    exact ⟨before, after, (append_of_splitAt? hcut).symm, size_of_splitAt? hcut⟩

instance (text : Text) (offset : Nat) : Decidable (IsBoundary text offset) :=
  decidable_of_iff _ isBoundary_iff.symm

theorem isBoundary_zero (text : Text) : IsBoundary text 0 :=
  ⟨[], text, rfl, rfl⟩

theorem isBoundary_size (text : Text) : IsBoundary text (size text) :=
  ⟨text, [], by simp, rfl⟩

theorem IsBoundary.le_size {text : Text} {offset : Nat} (h : IsBoundary text offset) :
    offset ≤ size text := by
  obtain ⟨before, after, rfl, rfl⟩ := h
  rw [size_append]
  omega

/-- Of two beginnings of a text the shorter is one of the longer. -/
theorem exists_append_of_size_le {first rest first' rest' : Text}
    (h : first ++ rest = first' ++ rest') (hle : size first ≤ size first') :
    ∃ middle, first' = first ++ middle ∧ rest = middle ++ rest' := by
  rcases List.append_eq_append_iff.mp h with ⟨middle, hfirst, hrest⟩ | ⟨extra, rfl, rfl⟩
  · exact ⟨middle, hfirst, hrest⟩
  · rw [size_append] at hle
    obtain rfl := size_eq_zero_iff.mp (show size extra = 0 by omega)
    exact ⟨[], by simp, by simp⟩

/-- Two boundaries in order, `start` and `stop`, cut a text into three parts. -/
theorem exists_parts {text : Text} {start stop : Nat} (hstart : IsBoundary text start)
    (hstop : IsBoundary text stop) (hle : start ≤ stop) :
    ∃ before middle after, text = before ++ middle ++ after ∧ size before = start ∧
      start + size middle = stop := by
  obtain ⟨before, rest, htext, rfl⟩ := hstart
  obtain ⟨longer, after, htext', rfl⟩ := hstop
  obtain ⟨middle, rfl, -⟩ := exists_append_of_size_le (htext.symm.trans htext') hle
  exact ⟨before, middle, after, htext', rfl, (size_append before middle).symm⟩

theorem slice?_parts (before middle after : Text) :
    slice? (before ++ middle ++ after) (size before) (size before + size middle) = some middle := by
  unfold slice?
  rw [if_pos (Nat.le_add_right _ _), List.append_assoc, splitAt?_append]
  show (splitAt? (middle ++ after) _).bind _ = _
  rw [Nat.add_sub_cancel_left, splitAt?_append]
  rfl

/-- Between boundaries (`IsBoundary`) there is a slice, of the size asked for. -/
theorem slice?_eq_some {text : Text} {start stop : Nat} (hstart : IsBoundary text start)
    (hstop : IsBoundary text stop) (hle : start ≤ stop) :
    slice? text start stop = some (slice text start stop) ∧
      start + size (slice text start stop) = stop := by
  obtain ⟨before, middle, after, rfl, rfl, rfl⟩ := exists_parts hstart hstop hle
  rw [slice, slice?_parts]
  exact ⟨rfl, rfl⟩

theorem slice_eq_of_parts {text before middle after : Text} {start stop : Nat}
    (htext : text = before ++ middle ++ after) (hstart : size before = start)
    (hstop : start + size middle = stop) : slice text start stop = middle := by
  subst htext hstart hstop
  rw [slice, slice?_parts]
  rfl

/-- Slices next to each other make up one.  `Text.slice` has a value for any two offsets, so the
boundaries are needed. -/
theorem slice_append_slice {text : Text} {start middle stop : Nat}
    (hstart : IsBoundary text start) (hmiddle : IsBoundary text middle)
    (hstop : IsBoundary text stop) (hle : start ≤ middle) (hle' : middle ≤ stop) :
    slice text start middle ++ slice text middle stop = slice text start stop := by
  obtain ⟨before, first, rest, htext, hbefore, hfirst⟩ := exists_parts hstart hmiddle hle
  obtain ⟨longer, second, after, htext', hlonger, hsecond⟩ := exists_parts hmiddle hstop hle'
  -- Both cuts at the middle offset are the same cut.
  have hsize : size (before ++ first) = size longer := by
    rw [size_append]
    omega
  have hcut : longer = before ++ first ∧ second ++ after = rest := by
    have h := splitAt?_append (before ++ first) rest
    rw [← htext, htext', List.append_assoc, hsize, splitAt?_append] at h
    exact Prod.mk.inj (Option.some.inj h)
  obtain ⟨rfl, rfl⟩ := hcut
  rw [slice_eq_of_parts htext hbefore hfirst, slice_eq_of_parts htext' hlonger hsecond]
  have hwhole : text = before ++ (first ++ second) ++ after := by
    rw [htext']
    simp only [List.append_assoc]
  exact (slice_eq_of_parts hwhole hbefore (by rw [size_append]; omega)).symm

theorem slice_whole (text : Text) : slice text 0 (size text) = text := by
  have hwhole : text = [] ++ text ++ [] := by simp
  exact slice_eq_of_parts hwhole size_nil (Nat.zero_add _)

end Text

/-- The range is one of whole characters of the text (`Text.IsBoundary`). -/
structure ByteRange.FitsIn (range : ByteRange) (text : Text) : Prop where
  ordered : range.start ≤ range.stop
  start : Text.IsBoundary text range.start
  stop : Text.IsBoundary text range.stop

theorem ByteRange.fitsIn_iff {range : ByteRange} {text : Text} :
    range.FitsIn text ↔ range.start ≤ range.stop ∧ Text.IsBoundary text range.start ∧
      Text.IsBoundary text range.stop :=
  ⟨fun h => ⟨h.ordered, h.start, h.stop⟩, fun h => ⟨h.1, h.2.1, h.2.2⟩⟩

instance (range : ByteRange) (text : Text) : Decidable (range.FitsIn text) :=
  decidable_of_iff _ ByteRange.fitsIn_iff.symm

/-! ### Splices -/

/-- `Spliced offset edits before after`: the text `before` begins at byte `offset`, and `after` is
the same text with the range of each edit replaced by its text, the edits in order of their ranges.
-/
inductive Spliced : Nat → List (ByteRange × Text) → Text → Text → Prop
  | keep (offset : Nat) (text : Text) : Spliced offset [] text text
  | edit {offset : Nat} {range : ByteRange} {gap old rest rest' : Text}
      {edits : List (ByteRange × Text)} (new : Text) (hstart : offset + Text.size gap = range.start)
      (hstop : range.start + Text.size old = range.stop)
      (hrest : Spliced range.stop edits rest rest') :
      Spliced offset ((range, new) :: edits) (gap ++ old ++ rest) (gap ++ new ++ rest')

namespace Spliced

/-- A text without edits in front of a splice: it becomes part of the first gap. -/
theorem prepend {offset start : Nat} {edits : List (ByteRange × Text)} {before after : Text}
    (front : Text) (hfront : offset + Text.size front = start)
    (h : Spliced start edits before after) :
    Spliced offset edits (front ++ before) (front ++ after) := by
  cases h with
  | keep => exact .keep offset _
  | @edit _ range gap old rest rest' edits new hstart hstop hrest =>
    have hgap : offset + Text.size (front ++ gap) = range.start := by
      rw [Text.size_append]
      omega
    have h := Spliced.edit new hgap hstop hrest
    simp only [List.append_assoc] at h ⊢
    exact h

/-- Splices of neighbouring texts make up one, with the edits of both (`++`). -/
theorem append {offset middle : Nat} {edits others : List (ByteRange × Text)}
    {first first' second second' : Text} (h : Spliced offset edits first first')
    (hmiddle : offset + Text.size first = middle) (hsecond : Spliced middle others second second') :
    Spliced offset (edits ++ others) (first ++ second) (first' ++ second') := by
  -- What the first splice keeps behind its last edit is the text in front of the second.
  induction h with
  | keep offset text => exact prepend text hmiddle hsecond
  | @edit offset range gap old rest rest' edits new hstart hstop hrest ih =>
    have hrest' : range.stop + Text.size rest = middle := by
      rw [Text.size_append, Text.size_append] at hmiddle
      omega
    have h := Spliced.edit new hstart hstop (ih hrest')
    simp only [List.append_assoc, List.cons_append] at h ⊢
    exact h

/-- A text that gives way as a whole. -/
theorem whole {range : ByteRange} {old : Text} (new : Text)
    (h : range.start + Text.size old = range.stop) :
    Spliced range.start [(range, new)] old new := by
  have hgap : range.start + Text.size [] = range.start := by simp
  have hsplice := Spliced.edit new hgap h (.keep range.stop [])
  simpa using hsplice

/-- The edits come one after the other, none before `offset`. -/
theorem inOrder {offset : Nat} {edits : List (ByteRange × Text)} {before after : Text}
    (h : Spliced offset edits before after) :
    (∀ edit ∈ edits, offset ≤ edit.1.start) ∧
      edits.Pairwise fun edit other => edit.1.stop ≤ other.1.start := by
  induction h with
  | keep => exact ⟨by simp, List.Pairwise.nil⟩
  | @edit offset range gap old rest rest' edits new hstart hstop hrest ih =>
    obtain ⟨hfrom, hpairwise⟩ := ih
    refine ⟨List.forall_mem_cons.mpr ⟨?_, ?_⟩, List.pairwise_cons.mpr ⟨hfrom, hpairwise⟩⟩
    · show offset ≤ range.start
      omega
    · intro edit hedit
      have := hfrom edit hedit
      omega

/-- What stands right in front of an edit, behind the edits before it, stays there. -/
theorem exists_parts_of_edit {offset : Nat} {edits others : List (ByteRange × Text)}
    {range : ByteRange} {new before after front gap back : Text}
    (h : Spliced offset (edits ++ (range, new) :: others) before after)
    (hbefore : before = front ++ gap ++ back)
    (hgap : offset + Text.size front + Text.size gap = range.start)
    (hends : ∀ edit ∈ edits, edit.1.stop ≤ offset + Text.size front) :
    ∃ front' back', after = front' ++ gap ++ new ++ back' := by
  induction edits generalizing offset before after front with
  | nil =>
    cases h with
    | @edit _ _ kept old rest rest' _ _ hstart hstop hrest =>
      -- The edit begins where the gap ends.
      have hsize : Text.size kept ≤ Text.size (front ++ gap) := by
        rw [Text.size_append]
        omega
      obtain ⟨middle, hmiddle, -⟩ := Text.exists_append_of_size_le
        ((List.append_assoc kept old rest).symm.trans hbefore) hsize
      have hnil : Text.size middle = 0 := by
        have h := congrArg Text.size hmiddle
        simp only [Text.size_append] at h
        omega
      rw [Text.size_eq_zero_iff.mp hnil, List.append_nil] at hmiddle
      exact ⟨front, rest', by rw [← hmiddle]⟩
  | cons first edits ih =>
    obtain ⟨firstRange, firstNew⟩ := first
    obtain ⟨hfirst, hends⟩ := List.forall_mem_cons.mp hends
    cases h with
    | @edit _ _ kept old rest rest' _ _ hstart hstop hrest =>
      -- The first edit ends in front of the gap.
      have hsize : Text.size (kept ++ old) ≤ Text.size front := by
        have hfirst : firstRange.stop ≤ offset + Text.size front := hfirst
        rw [Text.size_append]
        omega
      obtain ⟨middle, rfl, hrestEq⟩ :=
        Text.exists_append_of_size_le (hbefore.trans (List.append_assoc front gap back)) hsize
      have hoffset : firstRange.stop + Text.size middle
          = offset + Text.size (kept ++ old ++ middle) := by
        simp only [Text.size_append]
        omega
      rw [← hoffset] at hgap hends
      obtain ⟨front', back', hafter⟩ :=
        ih hrest (hrestEq.trans (List.append_assoc middle gap back).symm) hgap hends
      exact ⟨kept ++ firstNew ++ front', back', by rw [hafter]; simp only [List.append_assoc]⟩

/-- The text of each edit is in the text after, as a whole (`<:+:`). -/
theorem isInfix {offset : Nat} {edits : List (ByteRange × Text)} {before after : Text}
    (h : Spliced offset edits before after) {edit : ByteRange × Text} (hedit : edit ∈ edits) :
    edit.2 <:+: after := by
  induction h with
  | keep => cases hedit
  | edit new hstart hstop hrest ih =>
    rcases List.mem_cons.mp hedit with rfl | hedit
    · exact ⟨_, _, rfl⟩
    · exact (ih hedit).trans (List.suffix_append _ _).isInfix

end Spliced

/-! ### The printer's splice -/

namespace Printing

/-- The printer's sort is `List.insertionSort`, so its lemmas apply. -/
theorem sortByStart_eq (entries : List (ByteRange × Text)) :
    sortByStart entries
      = entries.insertionSort fun entry other => entry.1.start ≤ other.1.start := by
  have hinsert : ∀ (entry : ByteRange × Text) (sorted : List (ByteRange × Text)),
      insertByStart entry sorted = sorted.orderedInsert
        (fun entry other => entry.1.start ≤ other.1.start) entry := by
    intro entry sorted
    induction sorted with
    | nil => rfl
    | cons first rest ih => rw [insertByStart, ih, List.orderedInsert_cons]
  induction entries with
  | nil => rfl
  | cons entry rest ih =>
    rw [List.insertionSort_cons, ← ih, ← hinsert]
    rfl

theorem mem_sortByStart {entries : List (ByteRange × Text)} {entry : ByteRange × Text} :
    entry ∈ sortByStart entries ↔ entry ∈ entries := by
  rw [sortByStart_eq]
  exact (List.perm_insertionSort _ entries).mem_iff

/-- Non-empty ranges that do not meet come out of `sortByStart` one after the other. -/
theorem exists_sortByStart_eq {α : Type} (items : List α) (range : α → ByteRange) (new : α → Text)
    (nonempty : ∀ item ∈ items, (range item).start < (range item).stop)
    (apart : items.Pairwise fun item other => (range item).stop ≤ (range other).start ∨
      (range other).stop ≤ (range item).start) :
    ∃ sorted : List α, sorted.Perm items ∧
      sorted.Pairwise (fun item other => (range item).stop ≤ (range other).start) ∧
      sortByStart (items.map fun item => (range item, new item))
        = sorted.map fun item => (range item, new item) := by
  -- The items are sorted as their ranges are.  Sorted by where they begin, ranges that do not meet
  -- end before the next begins.
  let before : α → α → Prop := fun item other => (range item).start ≤ (range other).start
  have : IsTrans α before := ⟨fun _ _ _ h h' => Nat.le_trans h h'⟩
  have : Std.Total before := ⟨fun _ _ => Nat.le_total _ _⟩
  have hperm := List.perm_insertionSort before items
  refine ⟨items.insertionSort before, hperm, ?_, ?_⟩
  · have happart := (hperm.pairwise_iff fun h => h.symm).mpr apart
    refine ((List.pairwise_insertionSort before items).and happart).imp_of_mem ?_
    intro item other hitem hother ⟨hle, hapart⟩
    have hother := nonempty other (hperm.mem_iff.mp hother)
    have hle : (range item).start ≤ (range other).start := hle
    omega
  · rw [sortByStart_eq]
    exact (List.map_insertionSort before (fun entry other => entry.1.start ≤ other.1.start)
      (fun item => (range item, new item)) items fun _ _ _ _ => Iff.rfl).symm

/-- A range between the cursor and the end is not passed over (`Printing.splice`). -/
theorem not_skipped {range : ByteRange} {cursor stop : Nat} (hstart : cursor ≤ range.start)
    (hstop : range.stop ≤ stop) :
    ¬ (decide (range.start < cursor) || decide (stop < range.stop)) = true := by
  simp only [Bool.or_eq_true, decide_eq_true_eq]
  omega

/-- **Splices inside a splice.**  Where the new text of each range is itself a splice of the old
one, the printer's splice of the ranges is the splice of all inner edits. -/
theorem spliced_splice {α : Type} {source : Text} {stop cursor : Nat} {items : List α}
    {range : α → ByteRange} {new : α → Text} {inner : α → List (ByteRange × Text)}
    (hcursor : Text.IsBoundary source cursor) (hstop : Text.IsBoundary source stop)
    (hle : cursor ≤ stop) (fits : ∀ item ∈ items, (range item).FitsIn source)
    (within : ∀ item ∈ items, cursor ≤ (range item).start ∧ (range item).stop ≤ stop)
    (inOrder : items.Pairwise fun item other => (range item).stop ≤ (range other).start)
    (spliced : ∀ item ∈ items, Spliced (range item).start (inner item)
      (Text.slice source (range item).start (range item).stop) (new item)) :
    Spliced cursor (items.flatMap inner) (Text.slice source cursor stop)
      (splice source stop cursor (items.map fun item => (range item, new item))) := by
  induction items generalizing cursor with
  | nil => exact .keep _ _
  | cons item rest ih =>
    obtain ⟨hfits, hfitsRest⟩ := List.forall_mem_cons.mp fits
    obtain ⟨⟨hstart, hend⟩, hwithin⟩ := List.forall_mem_cons.mp within
    obtain ⟨hspliced, hsplicedRest⟩ := List.forall_mem_cons.mp spliced
    obtain ⟨hfirst, hinOrder⟩ := List.pairwise_cons.mp inOrder
    have hrest := ih hfits.stop hend hfitsRest
      (fun other hother => ⟨hfirst other hother, (hwithin other hother).2⟩) hinOrder hsplicedRest
    have hskip := not_skipped hstart hend
    obtain ⟨-, hgap⟩ := Text.slice?_eq_some hcursor hfits.start hstart
    obtain ⟨-, hold⟩ := Text.slice?_eq_some hfits.start hfits.stop hfits.ordered
    -- The old text is cut into the gap, the range of the item, and what follows.
    rw [List.map_cons, splice, if_neg hskip, List.flatMap_cons,
      ← Text.slice_append_slice hcursor hfits.stop hstop (Nat.le_trans hstart hfits.ordered) hend,
      ← Text.slice_append_slice hcursor hfits.start hfits.stop hstart hfits.ordered]
    refine (Spliced.prepend _ hgap hspliced).append ?_ hrest
    rw [Text.size_append, ← Nat.add_assoc, hgap, hold]

/-- The splice with every cut checked: a text is passed over as before, but a cut that is no slice
of the source fails. -/
def cutSplice? (source : Text) (stop : Nat) : Nat → List (ByteRange × Text) → Option Text
  | cursor, [] => Text.slice? source cursor stop
  | cursor, (range, text) :: rest =>
    if range.start < cursor || stop < range.stop then cutSplice? source stop cursor rest
    else do
      let gap ← Text.slice? source cursor range.start
      let tail ← cutSplice? source stop range.stop rest
      return gap ++ text ++ tail

/-- Where no cut fails, `splice` gives what `cutSplice?` gives. -/
theorem splice_of_cutSplice? {source text : Text} {stop cursor : Nat}
    {entries : List (ByteRange × Text)} (h : cutSplice? source stop cursor entries = some text) :
    splice source stop cursor entries = text := by
  induction entries generalizing cursor text with
  | nil =>
    rw [cutSplice?] at h
    rw [splice, Text.slice, h]
    rfl
  | cons entry rest ih =>
    rw [cutSplice?] at h
    rw [splice]
    split at h
    next hskip => rw [if_pos hskip, ih h]
    next hskip =>
      obtain ⟨gap, hgap, h⟩ := Option.bind_eq_some_iff.mp h
      obtain ⟨tail, htail, h⟩ := Option.bind_eq_some_iff.mp h
      rw [if_neg hskip, ih htail, Text.slice, hgap]
      exact Option.some.inj h

/-- Texts that are already there change nothing, whether they are passed over or not, and all cuts
are proper. -/
theorem cutSplice?_of_slices {source : Text} {stop cursor : Nat}
    {entries : List (ByteRange × Text)} (hcursor : Text.IsBoundary source cursor)
    (hstop : Text.IsBoundary source stop) (hle : cursor ≤ stop)
    (fits : ∀ entry ∈ entries, entry.1.FitsIn source)
    (slices : ∀ entry ∈ entries, entry.2 = Text.slice source entry.1.start entry.1.stop) :
    cutSplice? source stop cursor entries = some (Text.slice source cursor stop) := by
  induction entries generalizing cursor with
  | nil => exact (Text.slice?_eq_some hcursor hstop hle).1
  | cons entry rest ih =>
    obtain ⟨range, text⟩ := entry
    obtain ⟨hfits, hfitsRest⟩ := List.forall_mem_cons.mp fits
    obtain ⟨htext, hslices⟩ := List.forall_mem_cons.mp slices
    obtain rfl : text = Text.slice source range.start range.stop := htext
    rw [cutSplice?]
    split
    · -- The entry is passed over; its range will be part of a later gap.
      exact ih hcursor hle hfitsRest hslices
    next hskip =>
      -- The gap, the text that is there already, and what follows are one slice.
      simp only [Bool.or_eq_true, decide_eq_true_eq, not_or, Nat.not_lt] at hskip
      rw [(Text.slice?_eq_some hcursor hfits.start hskip.1).1,
        ih hfits.stop hskip.2 hfitsRest hslices,
        ← Text.slice_append_slice hcursor hfits.stop hstop (Nat.le_trans hskip.1 hfits.ordered)
          hskip.2,
        ← Text.slice_append_slice hcursor hfits.start hfits.stop hskip.1 hfits.ordered]
      rfl

end Printing

end SyntaxGraft
