import SyntaxGraft.Store.Utf8
/-!
# Files

A tree of files with a working directory.  A `Place` is the list of names that leads from the root
to a file or a directory; a path is what a user writes for it, with `.`, `..` and doubled
separators.  It starts at the root if it begins with a separator, and else in the working directory,
`home`.  There are no links: `..` leads back to where the directory stands, and the root is above
itself.

The view of a store is `get?`, which gives the content of the file at a place.  `find_put`: what is
put at a path is found by that path.
-/

namespace SyntaxGraft

/-- The names that lead from the root to a file or a directory. -/
abbrev Place := List Text

/-- Why a file cannot be read. -/
inductive StoreError where
  | notFound
  | isDirectory
  /-- Something that is no directory stands where one is wanted. -/
  | notDirectory
  /-- The content is no text. -/
  | notText

/-- The error in words. -/
def StoreError.message : StoreError → String
  | .notFound => "No such file or directory (os error 2)"
  | .isDirectory => "Is a directory (os error 21)"
  | .notDirectory => "Not a directory (os error 20)"
  | .notText => "stream did not contain valid UTF-8"

/-- Files with their contents, and the directories that were made. -/
structure FileStore where
  files : List (Place × ByteArray) := []
  directories : List Place := []
  /-- The directories whose names cannot be listed.  What is in them can be read by its path. -/
  unlisted : List Place := []
  /-- The working directory. -/
  home : Place := []

namespace FileStore

/-! ### Places -/

/-- The content of the file at a place. -/
def get? (store : FileStore) (place : Place) : Option ByteArray :=
  (store.files.find? fun file => file.1 = place).map (·.2)

/-- The place is the working directory, one above it, or a directory that was made. -/
def isDirectory (store : FileStore) (place : Place) : Bool :=
  place.isPrefixOf store.home || store.directories.contains place

/-- The store with the content of one file set. -/
def set (store : FileStore) (place : Place) (content : ByteArray) : FileStore :=
  { store with
    files := (place, content) :: store.files.filter fun file => file.1 ≠ place }

@[simp]
theorem get?_set_self (store : FileStore) (place : Place) (content : ByteArray) :
    (store.set place content).get? place = some content := by
  simp [get?, set]

/-- Setting a file changes no other. -/
theorem get?_set_of_ne {place other : Place} (store : FileStore) (content : ByteArray)
    (h : other ≠ place) : (store.set place content).get? other = store.get? other := by
  have hfind : ∀ files : List (Place × ByteArray),
      (files.filter fun file => file.1 ≠ place).find? (fun file => file.1 = other)
        = files.find? fun file => file.1 = other := by
    intro files
    rw [List.find?_filter]
    congr 1
    funext file
    by_cases hfile : file.1 = other
    · simp [hfile, h]
    · simp [hfile]
  simp only [get?, set, List.find?_cons, hfind]
  simp [Ne.symm h]

@[simp]
theorem isDirectory_set (store : FileStore) (place other : Place) (content : ByteArray) :
    (store.set place content).isDirectory other = store.isDirectory other := rfl

/-! ### Paths -/

/-- The names that a path lists between its separators. -/
def names : Text → List Text
  | [] => [[]]
  | c :: rest =>
    if c = '/' then [] :: names rest
    else
      match names rest with
      | [] => [[c]]
      | name :: others => (c :: name) :: others

/-- Where a path starts. -/
def origin (home : Place) (path : Text) : Place :=
  if path.head? = some '/' then [] else home

/-- Where a name leads from a directory. -/
def enter (place : Place) (name : Text) : Place :=
  if name ∈ [[], ['.']] then place
  else if name = ['.', '.'] then place.dropLast
  else place ++ [name]

/-- The place that a path names, whether or not anything is there. -/
def placeOf (home : Place) (path : Text) : Place :=
  (names path).foldl enter (origin home path)

/-- There is a directory at the place. -/
def needDirectory (store : FileStore) (place : Place) : Except StoreError Unit :=
  if store.isDirectory place then .ok ()
  else if (store.get? place).isSome then .error .notDirectory
  else .error .notFound

/-- Where names lead, each from the directory that the one before leads to. -/
def follow (store : FileStore) : List Text → Place → Except StoreError Place
  | [], place => .ok place
  | name :: rest, place =>
    match store.needDirectory place with
    | .error error => .error error
    | .ok () => store.follow rest (enter place name)

/-- Where a path leads. -/
def locate (store : FileStore) (path : Text) : Except StoreError Place :=
  if path = [] then .error .notFound else store.follow (names path) (origin store.home path)

/-- The place of the file that a path leads to, with its content. -/
def find (store : FileStore) (path : Text) : Except StoreError (Place × ByteArray) :=
  match store.locate path with
  | .error error => .error error
  | .ok place =>
    match store.get? place with
    | some content => .ok (place, content)
    | none => .error (if store.isDirectory place then .isDirectory else .notFound)

/-- The text of the file that a path leads to. -/
def readText (store : FileStore) (path : Text) : Except StoreError Text :=
  match store.find path with
  | .error error => .error error
  | .ok (_, content) =>
    match Utf8.decode content with
    | .ok text => .ok text
    | .error _ => .error .notText

/-- The place of the directory that a path leads to, if it does. -/
def directory? (store : FileStore) (path : Text) : Option Place :=
  match store.locate path with
  | .ok place => if store.isDirectory place then some place else none
  | .error _ => none

/-! ### Filling a store -/

/-- The directories that a path leads through before its last name. -/
def through (home : Place) (path : Text) : List Place :=
  ((names path).scanl enter (origin home path)).dropLast

/-- The store with some directories made. -/
def makeAll (store : FileStore) (places : List Place) : FileStore :=
  { store with directories := places ++ store.directories }

/-- The store with a file, in directories that are made for it. -/
def put (store : FileStore) (path : Text) (content : ByteArray) : FileStore :=
  (store.makeAll (through store.home path)).set (placeOf store.home path) content

/-- The store with a directory, in directories that are made for it. -/
def makeDirectory (store : FileStore) (path : Text) : FileStore :=
  store.makeAll (placeOf store.home path :: through store.home path)

/-- The store without what a path names. -/
def remove (store : FileStore) (path : Text) : FileStore :=
  let place := placeOf store.home path
  { store with
    files := store.files.filter fun file => !place.isPrefixOf file.1
    directories := store.directories.filter fun directory => !place.isPrefixOf directory
    unlisted := store.unlisted.filter fun directory => !place.isPrefixOf directory }

/-- Names lead on as they say when there is a directory wherever one is wanted. -/
theorem follow_of_isDirectory {store : FileStore} {names : List Text} {place : Place}
    (h : ∀ directory ∈ (names.scanl enter place).dropLast, store.isDirectory directory = true) :
    store.follow names place = .ok (names.foldl enter place) := by
  induction names generalizing place with
  | nil => rfl
  | cons name rest ih =>
    have hne : rest.scanl enter (enter place name) ≠ [] := by simp
    rw [List.scanl_cons, List.dropLast_cons_of_ne_nil hne, List.forall_mem_cons] at h
    obtain ⟨hplace, hrest⟩ := h
    rw [follow, needDirectory, if_pos hplace]
    exact ih hrest

/-- **What is put is found.** -/
theorem find_put (store : FileStore) {path : Text} (h : path ≠ []) (content : ByteArray) :
    (store.put path content).find path = .ok (placeOf store.home path, content) := by
  have hmade : ∀ directory ∈ through store.home path,
      (store.put path content).isDirectory directory = true := by
    intro directory hmem
    simp [put, makeAll, isDirectory, set, hmem]
  have hlocate : (store.put path content).locate path = .ok (placeOf store.home path) := by
    rw [locate, if_neg h]
    exact follow_of_isDirectory hmade
  rw [find, hlocate]
  simp [put]

/-! ### Walking a directory -/

/-- The first name that differs is the lesser, or there is none and the other way goes on. -/
def precedes (one other : Place) : Bool :=
  List.lex one other fun name otherName =>
    List.lex name otherName fun c d => c.toNat < d.toNat

/-- The ways from a directory to those of some places that are at or below it, in order. -/
def ways (place : Place) (targets : List Place) : List Place :=
  ((targets.filter place.isPrefixOf).map (·.drop place.length)).mergeSort fun one other =>
    !precedes other one

/-- The ways from a directory to the files below it, in order. -/
def below (store : FileStore) (place : Place) : List Place :=
  ways place (store.files.map (·.1))

/-- The way from a directory to the first one, itself included, where a walk has to stop. -/
def obstacle? (store : FileStore) (place : Place) : Option Place :=
  (ways place (store.unlisted.filter store.isDirectory)).head?

end FileStore

end SyntaxGraft
