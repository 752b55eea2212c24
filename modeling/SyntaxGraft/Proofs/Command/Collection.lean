import SyntaxGraft.Command.Input
import SyntaxGraft.Proofs.Store.Lookup
import SyntaxGraft.Proofs.Store.Walk
/-!
# What paths stand for

The inputs of a command are those of its paths, one after the other (`collect_eq_ok_iff`).  In a
tree of files, a directory contributes the JavaScript files below it in the order of a walk
(`contributes_of_inputsOf`), and the path of each of these inputs leads to its file
(`locate_join_of_mem_below`).  Collecting fails if and only if one of the walks has to stop
(`exists_collect_eq_error_iff`).
-/

namespace SyntaxGraft.Command

open FileStore (IsFileName IsTree WalksBefore)

variable {store : FileStore} {path : Text} {place way : Place}

/-! ### JavaScript files -/

/-- The last name of the place has something before a dot, and `js`, `mjs`, `cjs` or `jsx` after
it. -/
def IsJavaScript (place : Place) : Prop :=
  ∃ front stem ending, place = front ++ [stem ++ '.' :: ending] ∧ stem ≠ [] ∧
    ending ∈ ["js".toList, "mjs".toList, "cjs".toList, "jsx".toList]

/-- What `extension?` gives stands behind the last dot of the name, if something stands before. -/
theorem extension?_eq_some_iff {name ending : Text} :
    extension? name = some ending ↔
      ∃ stem, name = stem ++ '.' :: ending ∧ stem ≠ [] ∧ '.' ∉ ending := by
  constructor
  · intro h
    rw [extension?] at h
    split at h
    next hlength =>
      have hending := Option.some.inj h
      -- What stands before the ending is not empty, so it ends with the dot that `takeWhile` met.
      have hparts := List.takeWhile_append_dropWhile (p := (· ≠ '.')) (l := name.reverse)
      cases hdrop : name.reverse.dropWhile (· ≠ '.') with
      | nil =>
        rw [hdrop, List.append_nil] at hparts
        rw [hparts, List.reverse_reverse] at hlength
        omega
      | cons c stem =>
        have hc : c = '.' := by
          have hhead := List.head?_dropWhile_not (· ≠ '.') name.reverse
          rw [hdrop] at hhead
          simpa using hhead
        have hname : name = stem.reverse ++ '.' :: ending := by
          rw [← List.reverse_reverse name, ← hparts, hdrop, hc, ← hending]
          simp
        refine ⟨stem.reverse, hname, ?_, ?_⟩
        · intro hstem
          rw [hending, hname, hstem] at hlength
          simp at hlength
        · intro hdot
          rw [← hending, List.mem_reverse] at hdot
          simpa using List.all_eq_true.mp List.all_takeWhile '.' hdot
    next => cases h
  · -- The ending has no dot, so `takeWhile` goes through all of it and no further.
    rintro ⟨stem, rfl, hstem, hdot⟩
    have hreverse : (stem ++ '.' :: ending).reverse = ending.reverse ++ '.' :: stem.reverse := by
      simp
    have htake : ((stem ++ '.' :: ending).reverse.takeWhile (· ≠ '.')).reverse = ending := by
      rw [hreverse, List.takeWhile_append_of_pos]
      · simp
      · intro c hc
        rw [List.mem_reverse] at hc
        exact decide_eq_true fun heq => hdot (heq ▸ hc)
    rw [extension?, htake, if_pos]
    have := List.length_pos_iff.mpr hstem
    simp only [List.length_append, List.length_cons]
    omega

/-- The walk takes a file (`isSource`) just if it is a JavaScript file. -/
theorem isSource_iff {place : Place} : isSource place = true ↔ IsJavaScript place := by
  constructor
  · intro h
    rw [isSource] at h
    cases hlast : place.getLast? with
    | none => simp [hlast] at h
    | some name =>
      cases hending : extension? name with
      | none => simp [hlast, hending] at h
      | some ending =>
        obtain ⟨stem, hname, hstem, -⟩ := extension?_eq_some_iff.mp hending
        obtain ⟨front, hplace⟩ := List.getLast?_eq_some_iff.mp hlast
        refine ⟨front, stem, ending, by rw [hplace, hname], hstem, ?_⟩
        simpa [hlast, hending, extensions] using h
  · rintro ⟨front, stem, ending, hplace, hstem, hmem⟩
    have hdot : '.' ∉ ending := by
      have hnone : ∀ text ∈ extensions, '.' ∉ text := by decide
      exact hnone ending hmem
    have hending := extension?_eq_some_iff.mpr ⟨stem, rfl, hstem, hdot⟩
    rw [isSource, hplace, List.getLast?_concat, Option.bind_some, hending]
    simpa [extensions] using hmem

/-! ### The paths of the files below a directory -/

/-- From a directory on, the names of a way lead further if there is a directory behind each but the
last. -/
theorem locate_join {way : Place} (h : store.locate path = .ok place)
    (hdirectory : ∀ n < way.length, store.isDirectory (place ++ way.take n) = true)
    (hname : ∀ name ∈ way, IsFileName name) :
    store.locate (join path way) = .ok (place ++ way) := by
  -- By induction on the way: its first name is joined to the path, and the rest to that.
  induction way generalizing path place with
  | nil => rwa [List.append_nil]
  | cons name way ih =>
    obtain ⟨hfirst, hothers⟩ := List.forall_mem_cons.mp hname
    have hplace : store.isDirectory place = true := by
      have hzero := hdirectory 0 (Nat.succ_pos _)
      rwa [List.take_zero, List.append_nil] at hzero
    have hnext : ∀ n < way.length, store.isDirectory (place ++ [name] ++ way.take n) = true := by
      intro n hn
      have hsucc := hdirectory (n + 1) (Nat.succ_lt_succ hn)
      rwa [List.take_succ_cons, List.append_cons] at hsucc
    rw [List.append_cons place name way]
    refine ih ?_ hnext hothers
    dsimp only
    split
    next hlast =>
      -- The path has its separator already.
      obtain ⟨front, rfl⟩ := List.getLast?_eq_some_iff.mp hlast
      rw [List.append_assoc]
      exact FileStore.locate_of_follow (FileStore.follow_of_locate_slash h) hplace hfirst
    next =>
      -- `join` puts one between.
      exact FileStore.locate_of_follow (FileStore.follow_of_locate h) hplace hfirst

/-! ### Contributions -/

/-- What a path contributes to the inputs: the standard input for `-`, the JavaScript files below a
directory in the order of a walk, by paths that lead to them, and for any other path what it leads
to, if it does. -/
inductive Contributes (store : FileStore) : Text → List Input → Prop where
  | standard : Contributes store ['-'] [.standard]
  | directory {path : Text} {place : Place} {ways : List Place} (hpath : path ≠ ['-'])
      (hplace : store.directory? path = some place)
      (hmem : ∀ way, way ∈ ways ↔
        (store.get? (place ++ way)).isSome = true ∧ IsJavaScript (place ++ way))
      (horder : ways.Pairwise WalksBefore)
      (hlocate : ∀ way ∈ ways, store.locate (join path way) = .ok (place ++ way)) :
      Contributes store path (ways.map fun way => .file (join path way))
  | file {path : Text} (hpath : path ≠ ['-']) (hplace : store.directory? path = none) :
      Contributes store path [.file path]

/-- What `directory?` gives is where the path leads, and a directory. -/
theorem locate_of_directory? (h : store.directory? path = some place) :
    store.locate path = .ok place ∧ store.isDirectory place = true := by
  rw [FileStore.directory?] at h
  split at h
  next found hfound =>
    split at h
    next hdirectory =>
      obtain rfl := Option.some.inj h
      exact ⟨hfound, hdirectory⟩
    next => cases h
  next => cases h

/-- Only the last name says (`isSource`) whether a file below a directory is a JavaScript file. -/
theorem isSource_append {way : Place} (h : way ≠ []) : isSource (place ++ way) = isSource way := by
  rw [isSource, isSource, List.getLast?_append_of_ne_nil _ h]

/-- A directory is no file, so a file below it is further down. -/
theorem ne_nil_of_mem_below (htree : store.IsTree) (hplace : store.isDirectory place = true)
    (hway : way ∈ store.below place) : way ≠ [] := by
  rintro rfl
  have hfile := FileStore.mem_ways_iff.mp hway
  rw [List.append_nil] at hfile
  obtain ⟨file, hmem, rfl⟩ := List.mem_map.mp hfile
  rw [htree.not_isDirectory file hmem] at hplace
  cases hplace

/-- **The files below a directory are what is read by the paths that its walk gives**
(`FileStore.below`, `join`). -/
theorem locate_join_of_mem_below (htree : store.IsTree)
    (h : store.locate path = .ok place) (hway : way ∈ store.below place) :
    store.locate (join path way) = .ok (place ++ way) := by
  obtain ⟨file, hfile, heq⟩ := List.mem_map.mp (FileStore.mem_ways_iff.mp hway)
  refine locate_join h ?_ ?_
  · -- In a tree every file stands in directories.
    intro n hn
    have htake := htree.isDirectory_take file hfile (place.length + n)
    rw [heq, List.length_append, List.take_length_add_append] at htake
    exact htake (Nat.add_lt_add_left hn _)
  · intro name hname
    refine htree.isFileName file hfile name ?_
    rw [heq]
    exact List.mem_append_right place hname

/-- **What a path stands for in a tree of files**: what `inputsOf` gives is what it `Contributes`.
-/
theorem contributes_of_inputsOf (htree : store.IsTree) {inputs : List Input}
    (h : inputsOf store path = .ok inputs) : Contributes store path inputs := by
  rw [inputsOf] at h
  split at h
  next hpath =>
    cases h
    rw [hpath]
    exact .standard
  next hpath =>
    cases hdirectory : store.directory? path with
    | none =>
      rw [hdirectory] at h
      cases h
      exact .file hpath hdirectory
    | some place =>
      rw [hdirectory] at h
      cases hobstacle : store.obstacle? place with
      | some way => simp [hobstacle] at h
      | none =>
        simp only [hobstacle, Except.ok.injEq] at h
        rw [← h]
        obtain ⟨hlocate, hplace⟩ := locate_of_directory? hdirectory
        refine .directory hpath hdirectory ?_ ?_ ?_
        · -- `inputsOf` looks at the names below the directory, `Contributes` at whole places.
          intro way
          rw [List.mem_filter, FileStore.isSome_get?_iff, ← FileStore.mem_ways_iff, ← isSource_iff]
          refine and_congr_right fun hway => ?_
          rw [isSource_append (ne_nil_of_mem_below htree hplace hway)]
        · exact (htree.pairwise_below place).filter _
        · intro way hway
          exact locate_join_of_mem_below htree hlocate (List.mem_filter.mp hway).1

/-! ### All paths -/

/-- The inputs that `collect` gives are those of the paths, one after the other. -/
theorem collect_eq_ok_iff {paths : List Text} {inputs : List Input} :
    collect store paths = .ok inputs ↔
      ∃ parts, List.Forall₂ (fun path part => inputsOf store path = .ok part) paths parts ∧
        inputs = parts.flatten := by
  induction paths generalizing inputs with
  | nil => simp [collect, eq_comm]
  | cons path paths ih =>
    rw [collect]
    constructor
    · intro h
      cases hfirst : inputsOf store path with
      | error error => simp [hfirst] at h
      | ok part =>
        cases hothers : collect store paths with
        | error error => simp [hfirst, hothers] at h
        | ok others =>
          simp only [hfirst, hothers, Except.ok.injEq] at h
          obtain ⟨parts, hparts, hflatten⟩ := ih.mp hothers
          refine ⟨part :: parts, .cons hfirst hparts, ?_⟩
          rw [← h, hflatten, List.flatten_cons]
    · rintro ⟨parts, hparts, rfl⟩
      obtain _ | ⟨hfirst, hothers⟩ := hparts
      rw [hfirst, ih.mpr ⟨_, hothers, rfl⟩, List.flatten_cons]

/-- The path is that of a directory whose walk has to stop at one that cannot be listed. -/
def WalkFails (store : FileStore) (path : Text) : Prop :=
  path ≠ ['-'] ∧ ∃ place way, store.directory? path = some place ∧
    place ++ way ∈ store.unlisted ∧ store.isDirectory (place ++ way) = true

/-- A path has no inputs just if its walk meets a directory that cannot be listed
(`FileStore.obstacle?`); a path that leads nowhere is an input, and fails when it is read. -/
theorem exists_inputsOf_eq_error_iff :
    (∃ error, inputsOf store path = .error error) ↔ WalkFails store path := by
  rw [inputsOf, WalkFails]
  by_cases hpath : path = ['-']
  · simp [hpath]
  rw [if_neg hpath, and_iff_right hpath]
  cases hdirectory : store.directory? path with
  | none => simp
  | some place =>
    cases hobstacle : store.obstacle? place with
    | none =>
      have hnone := FileStore.obstacle?_eq_none_iff.mp hobstacle
      simpa [hobstacle] using hnone
    | some way =>
      have hsome : store.obstacle? place ≠ none := by simp [hobstacle]
      rw [ne_eq, FileStore.obstacle?_eq_none_iff] at hsome
      simpa [hobstacle] using hsome

/-- **Collecting fails if and only if the walk of some directory fails** (`WalkFails`). -/
theorem exists_collect_eq_error_iff {paths : List Text} :
    (∃ error, collect store paths = .error error) ↔ ∃ path ∈ paths, WalkFails store path := by
  induction paths with
  | nil => simp [collect]
  | cons path paths ih =>
    simp only [List.mem_cons, exists_eq_or_imp]
    rw [← ih, ← exists_inputsOf_eq_error_iff, collect]
    cases inputsOf store path with
    | error error => simp
    | ok inputs => cases collect store paths <;> simp

end SyntaxGraft.Command
