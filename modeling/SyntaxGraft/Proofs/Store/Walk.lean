import Mathlib.Data.List.Lex
import Mathlib.Data.List.Nodup
import Mathlib.Data.Char
import Mathlib.Order.Lattice
import SyntaxGraft.Store.FileStore
/-!
# Walking file trees

A store is a tree when its files are apart from its directories, stand in directories, and have the
names that files can have (`FileStore.IsTree`).  The ways that a walk takes from a directory are
those to the places at or below it (`FileStore.mem_ways_iff`), in the order of their names
(`FileStore.pairwise_below`): at the first name in which two of them differ, the lesser goes first.
-/

namespace SyntaxGraft.FileStore

/-! ### Trees -/

/-- A name that a file or a directory can have: `.` and `..` mean others, and `/` ends a name. -/
def IsFileName (name : Text) : Prop :=
  name ≠ [] ∧ name ≠ ['.'] ∧ name ≠ ['.', '.'] ∧ '/' ∉ name

instance (name : Text) : Decidable (IsFileName name) :=
  inferInstanceAs (Decidable (_ ∧ _))

/-- The store is a tree of files: no place is that of two files, files have names that paths can
spell, and what is above a file is a directory while the file is none. -/
structure IsTree (store : FileStore) : Prop where
  distinct : (store.files.map (·.1)).Nodup
  isFileName : ∀ file ∈ store.files, ∀ name ∈ file.1, IsFileName name
  isDirectory_take : ∀ file ∈ store.files, ∀ n < file.1.length,
    store.isDirectory (file.1.take n) = true
  not_isDirectory : ∀ file ∈ store.files, store.isDirectory file.1 = false

variable {store : FileStore} {place target : Place}

theorem isSome_get?_iff : (store.get? target).isSome = true ↔ target ∈ store.files.map (·.1) := by
  rw [get?, Option.isSome_map, List.find?_isSome, List.mem_map]
  simp

/-- No file stands on the way to another, where directories do (`IsTree.isDirectory_take`). -/
theorem IsTree.eq_of_isPrefix (h : store.IsTree) {one other : Place}
    (hone : one ∈ store.files.map (·.1)) (hother : other ∈ store.files.map (·.1))
    (hfront : one <+: other) : one = other := by
  obtain ⟨file, hfile, rfl⟩ := List.mem_map.mp hone
  obtain ⟨file', hfile', rfl⟩ := List.mem_map.mp hother
  by_contra hne
  have hlength : file.1.length < file'.1.length := by
    refine Nat.lt_of_le_of_ne hfront.length_le ?_
    exact fun heq => hne (hfront.eq_of_length heq)
  have hdirectory := h.isDirectory_take file' hfile' file.1.length hlength
  rw [← List.prefix_iff_eq_take.mp hfront, h.not_isDirectory file hfile] at hdirectory
  cases hdirectory

/-! ### Paths that lead on -/

theorem names_ne_nil (text : Text) : names text ≠ [] := by
  cases text with
  | nil => exact List.cons_ne_nil _ _
  | cons c rest =>
    rw [names]
    split
    · exact List.cons_ne_nil _ _
    · split <;> exact List.cons_ne_nil _ _

/-- A separator ends a name, so it takes two texts apart for good. -/
theorem names_append_slash (one other : Text) :
    names (one ++ '/' :: other) = names one ++ names other := by
  induction one with
  | nil => rfl
  | cons c rest ih =>
    rw [List.cons_append, names, names, ih]
    split
    · rfl
    · cases hnames : names rest with
      | nil => exact absurd hnames (names_ne_nil rest)
      | cons name others => rfl

theorem names_of_slash_notMem {name : Text} (h : '/' ∉ name) : names name = [name] := by
  induction name with
  | nil => rfl
  | cons c rest ih =>
    rw [List.mem_cons, not_or] at h
    rw [names, if_neg (Ne.symm h.1), ih h.2]

theorem follow_append (one other : List Text) (place : Place) :
    store.follow (one ++ other) place
      = (store.follow one place).bind fun reached => store.follow other reached := by
  induction one generalizing place with
  | nil => rfl
  | cons name rest ih =>
    rw [List.cons_append, follow, follow]
    cases store.needDirectory place with
    | error error => rfl
    | ok _ => exact ih (enter place name)

/-- A name after a separator is followed from where the names before it lead. -/
theorem locate_append_slash (store : FileStore) (path more : Text) :
    store.locate (path ++ '/' :: more) =
      (store.follow (names path) (origin store.home (path ++ ['/']))).bind fun reached =>
        store.follow (names more) reached := by
  have horigin : origin store.home (path ++ '/' :: more) = origin store.home (path ++ ['/']) := by
    cases path <;> rfl
  rw [locate, if_neg (by simp), horigin, names_append_slash, follow_append]

/-- Where a path leads, its names are followed from where a longer path begins as well. -/
theorem follow_of_locate {path : Text} (h : store.locate path = .ok place) :
    store.follow (names path) (origin store.home (path ++ ['/'])) = .ok place := by
  cases path with
  | nil => cases h
  | cons c rest => exact h

/-- The empty name after a separator at the end leads from a directory to itself. -/
theorem follow_of_locate_slash {path : Text} (h : store.locate (path ++ ['/']) = .ok place) :
    store.follow (names path) (origin store.home (path ++ ['/'])) = .ok place := by
  rw [locate_append_slash] at h
  cases hreached : store.follow (names path) (origin store.home (path ++ ['/'])) with
  | error error =>
    rw [hreached] at h
    cases h
  | ok reached =>
    rw [hreached] at h
    change store.follow [[]] reached = _ at h
    rw [follow] at h
    split at h
    · cases h
    · exact h

/-- A name after a separator leads on from a directory (`FileStore.enter`). -/
theorem locate_of_follow {path name : Text}
    (h : store.follow (names path) (origin store.home (path ++ ['/'])) = .ok place)
    (hdirectory : store.isDirectory place = true) (hname : IsFileName name) :
    store.locate (path ++ '/' :: name) = .ok (place ++ [name]) := by
  obtain ⟨hnil, hdot, hdots, hslash⟩ := hname
  rw [locate_append_slash, h, names_of_slash_notMem hslash]
  show store.follow [name] place = _
  rw [follow, needDirectory, if_pos hdirectory]
  simp [follow, enter, hnil, hdot, hdots]

/-! ### The order of a walk -/

/-- At the first name in which the two differ, the one has the lesser name. -/
def WalksBefore (one other : Place) : Prop :=
  ∃ common name rest name' rest', one = common ++ name :: rest ∧
    other = common ++ name' :: rest' ∧ name < name'

theorem WalksBefore.append {one other : Place} (h : WalksBefore one other) (place : Place) :
    WalksBefore (place ++ one) (place ++ other) := by
  obtain ⟨common, name, rest, name', rest', hone, hother, hlt⟩ := h
  refine ⟨place ++ common, name, rest, name', rest', ?_, ?_, hlt⟩
  · rw [hone, List.append_assoc]
  · rw [hother, List.append_assoc]

theorem WalksBefore.ne {one other : Place} (h : WalksBefore one other) : one ≠ other := by
  obtain ⟨common, name, rest, name', rest', hone, hother, hlt⟩ := h
  rw [hone, hother, ne_eq, List.append_cancel_left_eq]
  intro heq
  exact hlt.ne (List.cons.inj heq).1

/-- What the walk sorts by is the order of lists of names, and that of names is by characters. -/
theorem precedes_iff {one other : Place} : precedes one other = true ↔ one < other := by
  have hname : (fun name name' : Text =>
      List.lex name name' fun c d => decide (c.toNat < d.toNat))
        = fun name name' => decide (name < name') := by
    funext name name'
    exact Bool.eq_iff_iff.mpr (List.lex_eq_true_iff_lt.trans decide_eq_true_iff.symm)
  rw [precedes, hname]
  exact List.lex_eq_true_iff_lt

/-- Of two ways, the lesser leads towards the other or has the lesser name where they part. -/
theorem prefix_or_walksBefore_of_lt {one other : Place} (h : one < other) :
    one <+: other ∨ WalksBefore one other := by
  -- By induction on the order: it ends at the end of the one way, or where a name is less.
  induction List.lex_lt.mpr h with
  | nil => exact .inl List.nil_prefix
  | rel hlt => exact .inr ⟨[], _, _, _, _, rfl, rfl, hlt⟩
  | @cons name rest rest' hrest ih =>
    rcases ih (List.lex_lt.mp hrest) with hfront | hbefore
    · exact .inl (List.cons_prefix_cons.mpr ⟨rfl, hfront⟩)
    · exact .inr (hbefore.append [name])

/-! ### Ways -/

theorem mem_ways_iff {targets : List Place} {way : Place} :
    way ∈ ways place targets ↔ place ++ way ∈ targets := by
  rw [ways, List.mem_mergeSort, List.mem_map]
  constructor
  · rintro ⟨target, hmem, rfl⟩
    obtain ⟨htarget, hfront⟩ := List.mem_filter.mp hmem
    rw [List.isPrefixOf_iff_prefix, List.prefix_iff_eq_append] at hfront
    rwa [hfront]
  · intro hmem
    refine ⟨place ++ way, List.mem_filter.mpr ⟨hmem, ?_⟩, List.drop_left⟩
    exact List.isPrefixOf_iff_prefix.mpr (List.prefix_append place way)

/-- `ways` sorts by `precedes`, which is total and transitive. -/
theorem pairwise_le_ways (place : Place) (targets : List Place) :
    (ways place targets).Pairwise (· ≤ ·) := by
  have hle : ∀ one other : Place, (!precedes other one) = true ↔ one ≤ other := by
    intro one other
    rw [Bool.not_eq_true', Bool.eq_false_iff, ne_eq, precedes_iff, not_lt]
  refine List.Pairwise.imp (fun {one other} => (hle one other).mp)
    (List.pairwise_mergeSort ?_ ?_ _)
  · intro one other third hone hother
    rw [hle] at hone hother ⊢
    exact le_trans hone hother
  · intro one other
    rw [Bool.or_eq_true, hle, hle]
    exact le_total one other

/-- Ways to different places are different, since a way and its start make up the place. -/
theorem nodup_ways {targets : List Place} (h : targets.Nodup) : (ways place targets).Nodup := by
  refine (List.mergeSort_perm _ _).nodup_iff.mpr (List.Nodup.map_on ?_ (h.filter _))
  intro one hone other hother heq
  have hfront := List.isPrefixOf_iff_prefix.mp (List.mem_filter.mp hone).2
  have hfront' := List.isPrefixOf_iff_prefix.mp (List.mem_filter.mp hother).2
  rw [List.prefix_iff_eq_append] at hfront hfront'
  rw [← hfront, heq, hfront']

/-- **The files below a directory are walked by their names** (`WalksBefore`). -/
theorem IsTree.pairwise_below (h : store.IsTree) (place : Place) :
    (store.below place).Pairwise WalksBefore := by
  have hlt : (store.below place).Pairwise (· < ·) := by
    refine ((pairwise_le_ways place _).and (nodup_ways h.distinct)).imp ?_
    exact fun hboth => lt_of_le_of_ne hboth.1 hboth.2
  refine hlt.imp_of_mem fun {one other} hone hother hless => ?_
  refine (prefix_or_walksBefore_of_lt hless).resolve_left fun hfront => ?_
  -- One file would stand on the way to the other.
  have heq := h.eq_of_isPrefix (mem_ways_iff.mp hone) (mem_ways_iff.mp hother)
    (List.prefix_append_right_inj place |>.mpr hfront)
  exact hless.ne (List.append_cancel_left heq)

/-- A walk has to stop (`FileStore.obstacle?`) if some directory at or below its start cannot be
listed. -/
theorem obstacle?_eq_none_iff :
    store.obstacle? place = none ↔
      ∀ way, place ++ way ∈ store.unlisted → store.isDirectory (place ++ way) = false := by
  rw [obstacle?, List.head?_eq_none_iff, List.eq_nil_iff_forall_not_mem]
  refine forall_congr' fun way => ?_
  rw [mem_ways_iff, List.mem_filter, not_and, Bool.not_eq_true]

end SyntaxGraft.FileStore
