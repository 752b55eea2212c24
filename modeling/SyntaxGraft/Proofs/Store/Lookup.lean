import SyntaxGraft.Store.FileStore
/-!
# Finding files

Where a path leads is decided by which files and directories there are and by the working directory,
not by what the files hold (`FileStore.Alike.locate_eq`).  So writing a file that exists changes
neither where any path leads, nor what any path to another file gives (`FileStore.Alike.find_eq`).
-/

namespace SyntaxGraft

/-- Bytes that decode to a text are its encoding (`Utf8.encode`). -/
theorem Utf8.decode_eq_ok_iff {content : ByteArray} {text : Text} :
    decode content = .ok text ↔ content = encode text := by
  constructor
  · intro h
    unfold decode at h
    split at h
    next chars hchars =>
      obtain rfl := Except.ok.inj h
      have hsome : content.utf8Decode?.isSome = true := by rw [hchars]; rfl
      have hbytes : (content.utf8Decode?.get hsome).toList.utf8Encode = content :=
        ByteArray.utf8Encode_get_utf8Decode?
      simp only [hchars, Option.get_some] at hbytes
      rw [encode, String.toByteArray_ofList]
      exact hbytes.symm
    next => cases h
  · rintro rfl
    exact decode_encode text

/-- Texts differ if their bytes do, since `decode` gives the text back. -/
theorem Utf8.encode_injective {text other : Text} (h : encode text = encode other) :
    text = other := by
  have hdecode := decode_encode text
  rw [h, decode_encode] at hdecode
  exact (Except.ok.inj hdecode).symm

namespace FileStore

variable {store one other : FileStore} {path : Text} {place : Place} {content : ByteArray}

/-- A path gives a file if it leads to a place (`FileStore.locate`) and there is one there. -/
theorem find_eq_ok_iff :
    store.find path = .ok (place, content) ↔
      store.locate path = .ok place ∧ store.get? place = some content := by
  rw [find]
  cases store.locate path with
  | error error => simp
  | ok found =>
    dsimp only
    cases hget : store.get? found with
    | none =>
      constructor
      · intro h
        cases h
      · rintro ⟨hplace, hcontent⟩
        cases hplace
        rw [hget] at hcontent
        cases hcontent
    | some bytes =>
      constructor
      · intro h
        cases h
        exact ⟨rfl, hget⟩
      · rintro ⟨hplace, hcontent⟩
        cases hplace
        rw [hget] at hcontent
        cases hcontent
        rfl

/-! ### Stores of one shape -/

/-- The stores have files and directories at the same places, and one working directory. -/
structure Alike (one other : FileStore) : Prop where
  home_eq : one.home = other.home
  isDirectory_eq : ∀ place, one.isDirectory place = other.isDirectory place
  isSome_eq : ∀ place, (one.get? place).isSome = (other.get? place).isSome

namespace Alike

/-- Writing a file that exists (`FileStore.set`) keeps the shape. -/
theorem set (h : store.get? place = some content) (newContent : ByteArray) :
    Alike (store.set place newContent) store := by
  refine ⟨rfl, fun _ => rfl, fun target => ?_⟩
  by_cases htarget : target = place
  · rw [htarget, get?_set_self, h]
    rfl
  · rw [get?_set_of_ne store newContent htarget]

theorem needDirectory_eq (h : Alike one other) (place : Place) :
    one.needDirectory place = other.needDirectory place := by
  rw [needDirectory, needDirectory, h.isDirectory_eq, h.isSome_eq]

theorem follow_eq (h : Alike one other) (names : List Text) (place : Place) :
    one.follow names place = other.follow names place := by
  induction names generalizing place with
  | nil => rfl
  | cons name names ih => rw [follow, follow, h.needDirectory_eq, ih]

/-- Paths lead to the same places: `FileStore.follow` asks only what is a directory and what is
there. -/
theorem locate_eq (h : Alike one other) (path : Text) : one.locate path = other.locate path := by
  rw [locate, locate, h.home_eq, h.follow_eq]

/-- A path gives the same in both if the file that it leads to is the same. -/
theorem find_eq (h : Alike one other)
    (hget : ∀ place content, other.find path = .ok (place, content) →
      one.get? place = some content) : one.find path = other.find path := by
  cases hfind : other.find path with
  | ok found =>
    obtain ⟨place, content⟩ := found
    rw [find_eq_ok_iff, h.locate_eq]
    exact ⟨(find_eq_ok_iff.mp hfind).1, hget place content hfind⟩
  | error error =>
    rw [← hfind, find, find, h.locate_eq]
    split
    · rfl
    next place hplace =>
      -- The path leads to no file in the one store, so neither in the other.
      have hnone : other.get? place = none := by
        cases hget' : other.get? place with
        | none => rfl
        | some content =>
          rw [find_eq_ok_iff.mpr ⟨hplace, hget'⟩] at hfind
          cases hfind
      have hnone' : one.get? place = none := by
        rw [← Option.not_isSome_iff_eq_none, h.isSome_eq, hnone]
        simp
      rw [hnone, hnone', h.isDirectory_eq]

end Alike

end FileStore

end SyntaxGraft
