import SyntaxGraft.Proofs.Store.Lookup
import SyntaxGraft.Store.WritePlan
/-!
# Plans among other writers

Plans are carried out while others write and remove files.  What happens is a list of events, each
of which is over before the next begins: a `FileEvent.carryOut` is a whole call, so the others write
before it reads or after it has written, and never in between.

`WritePlan.carryOut_cases` says all that carrying out a plan can do; everything else follows from
it.

* What a file holds is replaced only by somebody else, or by a plan that was made from it
  (`FileStore.get?_after`).
* Of two plans made from one text, the first that is written wins: from then on it finds nothing
  left to do, and the other finds the file changed (`FileStore.Rivals.results_first`).
-/

namespace SyntaxGraft

/-! ### Carrying out a plan -/

/-- A text is recognised by what `Verification.ofText` kept of another: it is that text if that was
kept whole, or else has its hash. -/
theorem Verification.accepts_ofText_iff {original current : Text} :
    (ofText original).accepts current = true ↔
      original.size ≤ 1024 ∧ current = original ∨
        1024 < original.size ∧ current.hash = original.hash := by
  unfold ofText
  by_cases hshort : original.size ≤ limit
  · have hlong : ¬ 1024 < original.size := Nat.not_lt.mpr hshort
    rw [if_pos hshort, accepts, beq_iff_eq]
    exact ⟨fun h => .inl ⟨hshort, h⟩, fun h => h.elim And.right fun h => absurd h.1 hlong⟩
  · have hlong : 1024 < original.size := Nat.lt_of_not_le hshort
    rw [if_neg hshort, accepts, beq_iff_eq]
    exact ⟨fun h => .inr ⟨hlong, h⟩, fun h => h.elim (fun h => absurd h.1 hshort) And.right⟩

namespace WritePlan

variable {plan : WritePlan} {refusal : Option WriteError} {store : FileStore} {place : Place}
  {current : Text}

/-- A plan that finds no text (`Utf8.decode` fails) leaves the file. -/
theorem carryOut_of_notText {content : ByteArray} {fault : Utf8.Fault}
    (h : store.find plan.file = .ok (place, content))
    (hdecode : Utf8.decode content = .error fault) :
    plan.carryOut refusal store = (.error (.notText plan.file fault), store) := by
  simp [carryOut, h, decision, hdecode]

/-- A plan that finds its new text has nothing to do (`WriteOutcome.unchanged`). -/
theorem carryOut_of_same (h : store.find plan.file = .ok (place, Utf8.encode plan.newText)) :
    plan.carryOut refusal store = (.ok .unchanged, store) := by
  simp [carryOut, h, decision, Utf8.decode_encode, changes]

/-- A plan that finds a text that it was not made from (`WriteError.changed`) leaves it. -/
theorem carryOut_of_changed (h : store.find plan.file = .ok (place, Utf8.encode current))
    (hne : current ≠ plan.newText) (haccepts : plan.expected.accepts current = false) :
    plan.carryOut refusal store
      = (.error (.changed plan.file plan.expected.hash current.hash), store) := by
  simp [carryOut, h, decision, Utf8.decode_encode, changes, hne, haccepts]

/-- A plan that finds the text that it was made from (`Verification.accepts`) writes the file. -/
theorem carryOut_of_accepts (h : store.find plan.file = .ok (place, Utf8.encode current))
    (hne : current ≠ plan.newText) (haccepts : plan.expected.accepts current = true) :
    plan.carryOut none store
      = (.ok (.written plan.newText.size), store.set place (Utf8.encode plan.newText)) := by
  simp [carryOut, h, decision, Utf8.decode_encode, changes, hne, haccepts]

/-- A plan that may not write leaves the file, and the `refusal` is its error. -/
theorem carryOut_of_refused {error : WriteError}
    (h : store.find plan.file = .ok (place, Utf8.encode current))
    (hne : current ≠ plan.newText) (haccepts : plan.expected.accepts current = true) :
    plan.carryOut (some error) store = (.error error, store) := by
  simp [carryOut, h, decision, Utf8.decode_encode, changes, hne, haccepts]

/-- **What carrying out a plan does.**  It finds no file, or no text, or the new text, or a text
that it was not made from, and then leaves all files alone; else the file is written, unless that
is refused. -/
theorem carryOut_cases (plan : WritePlan) (refusal : Option WriteError) (store : FileStore) :
    (∃ error, store.find plan.file = .error error ∧
      plan.carryOut refusal store = (.error (.store error), store)) ∨
    (∃ place content fault, store.find plan.file = .ok (place, content) ∧
      Utf8.decode content = .error fault ∧
      plan.carryOut refusal store = (.error (.notText plan.file fault), store)) ∨
    (∃ place, store.find plan.file = .ok (place, Utf8.encode plan.newText) ∧
      plan.carryOut refusal store = (.ok .unchanged, store)) ∨
    (∃ place current, store.find plan.file = .ok (place, Utf8.encode current) ∧
      current ≠ plan.newText ∧ plan.expected.accepts current = false ∧
      plan.carryOut refusal store
        = (.error (.changed plan.file plan.expected.hash current.hash), store)) ∨
    ∃ place current, store.find plan.file = .ok (place, Utf8.encode current) ∧
      current ≠ plan.newText ∧ plan.expected.accepts current = true ∧
      ((∃ error, refusal = some error ∧ plan.carryOut refusal store = (.error error, store)) ∨
        refusal = none ∧ plan.carryOut refusal store
          = (.ok (.written plan.newText.size), store.set place (Utf8.encode plan.newText))) := by
  -- The cases are those of `decision`, in the order in which it asks.
  cases hfind : store.find plan.file with
  | error error => exact .inl ⟨error, rfl, by rw [carryOut, hfind]⟩
  | ok found =>
    obtain ⟨place, content⟩ := found
    right
    cases hdecode : Utf8.decode content with
    | error fault =>
      exact .inl ⟨place, content, fault, rfl, hdecode, carryOut_of_notText hfind hdecode⟩
    | ok current =>
      right
      obtain rfl := Utf8.decode_eq_ok_iff.mp hdecode
      by_cases hsame : current = plan.newText
      · rw [hsame] at hfind ⊢
        exact .inl ⟨place, rfl, carryOut_of_same hfind⟩
      right
      cases haccepts : plan.expected.accepts current with
      | false =>
        exact .inl ⟨place, current, rfl, hsame, haccepts, carryOut_of_changed hfind hsame haccepts⟩
      | true =>
        refine .inr ⟨place, current, rfl, hsame, haccepts, ?_⟩
        cases refusal with
        | some error => exact .inl ⟨error, rfl, carryOut_of_refused hfind hsame haccepts⟩
        | none => exact .inr ⟨rfl, carryOut_of_accepts hfind hsame haccepts⟩

/-- **When a plan writes, and what.**  Of the cases of `carryOut_cases`, the last is the only one
whose outcome is `WriteOutcome.written`. -/
theorem written_of_carryOut {bytes : Nat}
    (h : (plan.carryOut refusal store).1 = .ok (.written bytes)) :
    refusal = none ∧ bytes = plan.newText.size ∧
    ∃ place current, store.find plan.file = .ok (place, Utf8.encode current) ∧
      current ≠ plan.newText ∧ plan.expected.accepts current = true ∧
      (plan.carryOut refusal store).2 = store.set place (Utf8.encode plan.newText) := by
  rcases plan.carryOut_cases refusal store with
    ⟨error, -, heq⟩ | ⟨_, _, fault, -, -, heq⟩ | ⟨_, -, heq⟩ | ⟨_, _, -, -, -, heq⟩ |
      ⟨place, current, hfind, hne, haccepts, ⟨error, -, heq⟩ | ⟨hrefusal, heq⟩⟩
  · rw [heq] at h
    cases h
  · rw [heq] at h
    cases h
  · rw [heq] at h
    cases h
  · rw [heq] at h
    cases h
  · rw [heq] at h
    cases h
  · rw [heq] at h ⊢
    cases h
    exact ⟨hrefusal, rfl, place, current, hfind, hne, haccepts, rfl⟩

/-- **What a plan does to the files.**  It leaves them alone, or sets the file that it was made for,
which held a text that it was made from. -/
theorem store_carryOut_cases (plan : WritePlan) (refusal : Option WriteError) (store : FileStore) :
    (plan.carryOut refusal store).2 = store ∨
    ∃ place current, store.find plan.file = .ok (place, Utf8.encode current) ∧
      current ≠ plan.newText ∧ plan.expected.accepts current = true ∧
      (plan.carryOut refusal store).2 = store.set place (Utf8.encode plan.newText) := by
  by_cases hwritten : ∃ bytes, (plan.carryOut refusal store).1 = .ok (.written bytes)
  · obtain ⟨bytes, hbytes⟩ := hwritten
    obtain ⟨-, -, hset⟩ := written_of_carryOut hbytes
    exact .inr hset
  · exact .inl (carryOut_of_ne_written (not_exists.mp hwritten))

/-- There is nothing to do exactly if the file holds the new text. -/
theorem carryOut_eq_unchanged_iff :
    (plan.carryOut refusal store).1 = .ok .unchanged ↔
      ∃ place, store.find plan.file = .ok (place, Utf8.encode plan.newText) := by
  constructor
  · intro h
    rcases plan.carryOut_cases refusal store with
      ⟨error, -, heq⟩ | ⟨_, _, fault, -, -, heq⟩ | ⟨place, hfind, -⟩ | ⟨_, _, -, -, -, heq⟩ |
        ⟨_, _, -, -, -, ⟨error, -, heq⟩ | ⟨-, heq⟩⟩
    · rw [heq] at h
      cases h
    · rw [heq] at h
      cases h
    · exact ⟨place, hfind⟩
    · rw [heq] at h
      cases h
    · rw [heq] at h
      cases h
    · rw [heq] at h
      cases h
  · rintro ⟨place, hfind⟩
    rw [carryOut_of_same hfind]

end WritePlan

/-! ### Events -/

/-- Something that happens to files.  Events do not overlap. -/
inductive FileEvent where
  /-- Somebody writes a file (`FileStore.put`). -/
  | put (path : Text) (content : ByteArray)
  /-- Somebody removes what a path names (`FileStore.remove`). -/
  | remove (path : Text)
  /-- A plan is carried out, from reading the file to replacing it, and the system may refuse to
  write.  What others do between the two is no event of its own. -/
  | carryOut (plan : WritePlan) (refusal : Option WriteError)

namespace FileEvent

/-- The files after an event, given the `store` before it. -/
def step (store : FileStore) : FileEvent → FileStore
  | .put path content => store.put path content
  | .remove path => store.remove path
  | .carryOut plan refusal => (plan.carryOut refusal store).2

/-- What came of a plan; nothing comes of what others do. -/
def result? (store : FileStore) : FileEvent → Option (Except WriteError WriteOutcome)
  | .put _ _ => none
  | .remove _ => none
  | .carryOut plan refusal => some (plan.carryOut refusal store).1

/-- The event has no business with a file of this content: others write or remove other files, and a
plan was not made from this content, or would write it.  Paths are those of the working directory
`home`. -/
def Spares (home place : Place) (content : ByteArray) : FileEvent → Prop
  | .put path _ => FileStore.placeOf home path ≠ place
  | .remove path => ¬ FileStore.placeOf home path <+: place
  | .carryOut plan _ => ∀ current, content = Utf8.encode current →
      plan.expected.accepts current = true → current = plan.newText

end FileEvent

namespace FileStore

/-- The files after some events, one after the other. -/
def after (store : FileStore) (events : List FileEvent) : FileStore :=
  events.foldl FileEvent.step store

/-- What came of the plans among some events. -/
def results (store : FileStore) : List FileEvent → List (Option (Except WriteError WriteOutcome))
  | [] => []
  | event :: rest => event.result? store :: (event.step store).results rest

variable {store : FileStore} {place : Place} {content : ByteArray}

theorem after_append (store : FileStore) (first second : List FileEvent) :
    store.after (first ++ second) = (store.after first).after second :=
  List.foldl_append

theorem results_append (store : FileStore) (first second : List FileEvent) :
    store.results (first ++ second)
      = store.results first ++ (store.after first).results second := by
  induction first generalizing store with
  | nil => rfl
  | cons event rest ih =>
    rw [List.cons_append, results, ih, results]
    rfl

/-- Events that leave the files alone (`FileEvent.step`) all find them as they were. -/
theorem after_and_results_of_idle {events : List FileEvent}
    (h : ∀ event ∈ events, event.step store = store) :
    store.after events = store ∧ store.results events = events.map (·.result? store) := by
  induction events with
  | nil => exact ⟨rfl, rfl⟩
  | cons event rest ih =>
    obtain ⟨hevent, hrest⟩ := List.forall_mem_cons.mp h
    obtain ⟨hafter, hresults⟩ := ih hrest
    constructor
    · show (event.step store).after rest = store
      rw [hevent, hafter]
    · rw [results, hevent, hresults, List.map_cons]

/-! ### What files hold -/

theorem get?_put_of_ne {path : Text} (h : placeOf store.home path ≠ place) :
    (store.put path content).get? place = store.get? place := by
  rw [put, get?_set_of_ne _ _ h.symm]
  rfl

/-- What is removed is the place of the path with all that is below it. -/
theorem get?_remove_of_not_below {path : Text} (h : ¬ placeOf store.home path <+: place) :
    (store.remove path).get? place = store.get? place := by
  have hkeep : (placeOf store.home path).isPrefixOf place = false := by
    rw [Bool.eq_false_iff]
    exact fun hfront => h (List.isPrefixOf_iff_prefix.mp hfront)
  rw [get?, remove, List.find?_filter, get?]
  congr 2
  funext file
  by_cases hfile : file.1 = place
  · simp [hfile, hkeep]
  · simp [hfile]

/-- Nothing that happens to files changes the working directory. -/
theorem home_step (store : FileStore) (event : FileEvent) :
    (event.step store).home = store.home := by
  cases event with
  | put path content => rfl
  | remove path => rfl
  | carryOut plan refusal =>
    show (plan.carryOut refusal store).2.home = store.home
    rcases plan.store_carryOut_cases refusal store with hkept | ⟨_, _, -, -, -, hset⟩
    · rw [hkept]
    · rw [hset]
      rfl

theorem home_after (store : FileStore) (events : List FileEvent) :
    (store.after events).home = store.home := by
  induction events generalizing store with
  | nil => rfl
  | cons event rest ih => exact (ih (event.step store)).trans (home_step store event)

/-- **An event that spares a file leaves it** (`FileEvent.Spares`). -/
theorem get?_step {event : FileEvent} (h : store.get? place = some content)
    (hevent : event.Spares store.home place content) :
    (event.step store).get? place = some content := by
  cases event with
  | put path newContent => exact (get?_put_of_ne hevent).trans h
  | remove path => exact (get?_remove_of_not_below hevent).trans h
  | carryOut plan refusal =>
    show (plan.carryOut refusal store).2.get? place = some content
    rcases plan.store_carryOut_cases refusal store with
      hkept | ⟨target, current, hfind, hne, haccepts, hset⟩
    · rw [hkept]
      exact h
    · obtain ⟨-, hget⟩ := find_eq_ok_iff.mp hfind
      -- The plan writes a file that held a text it was made from, so it is another file.
      have hplace : place ≠ target := by
        rintro rfl
        rw [h] at hget
        exact hne (hevent current (Option.some.inj hget) haccepts)
      rw [hset, get?_set_of_ne store _ hplace]
      exact h

/-- What a file holds stays as long as every event spares it, by `get?_step` and `home_step`. -/
theorem get?_after {events : List FileEvent} (h : store.get? place = some content)
    (hevents : ∀ event ∈ events, event.Spares store.home place content) :
    (store.after events).get? place = some content := by
  induction events generalizing store with
  | nil => exact h
  | cons event rest ih =>
    obtain ⟨hevent, hrest⟩ := List.forall_mem_cons.mp hevents
    refine ih (get?_step h hevent) ?_
    rwa [home_step]

/-! ### Two plans for one file -/

/-- Plans made from one short text for one file, with new texts that differ from it and from each
other. -/
structure Rivals (store : FileStore) (place : Place) (original : Text)
    (file newText : Bool → Text) : Prop where
  short : original.size ≤ 1024
  differ : newText true ≠ newText false
  ne_original : ∀ which, newText which ≠ original
  find : ∀ which, store.find (file which) = .ok (place, Utf8.encode original)

/-- The attempts to carry out one plan or the other. -/
def attemptEvents (original : Text) (file newText : Bool → Text)
    (attempts : List (Bool × Option WriteError)) : List FileEvent :=
  attempts.map fun attempt =>
    .carryOut (.ofTexts (file attempt.1) original (newText attempt.1)) attempt.2

namespace Rivals

variable {original : Text} {file newText : Bool → Text}

theorem newText_injective (h : store.Rivals place original file newText) {one other : Bool}
    (hsame : newText one = newText other) : one = other := by
  cases one <;> cases other
  · rfl
  · exact absurd hsame.symm h.differ
  · exact absurd hsame h.differ
  · rfl

/-- A short text is kept whole, so no other is taken for it. -/
theorem accepts_eq (h : store.Rivals place original file newText) (current : Text) :
    (Verification.ofText original).accepts current = true ↔ current = original := by
  rw [Verification.accepts_ofText_iff]
  exact ⟨fun hor => hor.elim And.right fun hlong => absurd h.short (Nat.not_le.mpr hlong.1),
    fun heq => .inl ⟨h.short, heq⟩⟩

/-- While the file holds the text that the plans were made from, either can be written. -/
theorem carryOut_original (h : store.Rivals place original file newText) (which : Bool) :
    (WritePlan.ofTexts (file which) original (newText which)).carryOut none store
      = (.ok (.written (newText which).size), store.set place (Utf8.encode (newText which))) :=
  WritePlan.carryOut_of_accepts (h.find which) (h.ne_original which).symm
    ((h.accepts_eq original).mpr rfl)

/-- Then a refusal is all that can come between. -/
theorem carryOut_refused (h : store.Rivals place original file newText) (which : Bool)
    (error : WriteError) :
    (WritePlan.ofTexts (file which) original (newText which)).carryOut (some error) store
      = (.error error, store) :=
  WritePlan.carryOut_of_refused (h.find which) (h.ne_original which).symm
    ((h.accepts_eq original).mpr rfl)

/-- Once one of the plans was written, it has nothing to do and the other is turned down. -/
theorem carryOut_won (h : store.Rivals place original file newText) (winner which : Bool)
    (refusal : Option WriteError) :
    let won := store.set place (Utf8.encode (newText winner))
    (WritePlan.ofTexts (file which) original (newText which)).carryOut refusal won
      = (if which = winner then .ok .unchanged
          else .error (.changed (file which) original.hash (newText winner).hash), won) := by
  intro won
  have hget : store.get? place = some (Utf8.encode original) := (find_eq_ok_iff.mp (h.find which)).2
  have hfind : won.find (file which) = .ok (place, Utf8.encode (newText winner)) := by
    rw [find_eq_ok_iff, (Alike.set hget _).locate_eq]
    exact ⟨(find_eq_ok_iff.mp (h.find which)).1, get?_set_self _ _ _⟩
  by_cases hwho : which = winner
  · -- The winner finds its own new text.
    rw [if_pos hwho]
    rw [← hwho] at hfind
    exact WritePlan.carryOut_of_same hfind
  · -- The other finds a text that is neither the one it was made from nor its new one.
    have hne : newText winner ≠ newText which :=
      fun hsame => hwho (h.newText_injective hsame).symm
    have hnot : (Verification.ofText original).accepts (newText winner) = false := by
      rw [Bool.eq_false_iff]
      exact fun haccepts => h.ne_original winner ((h.accepts_eq _).mp haccepts)
    have hlost := @WritePlan.carryOut_of_changed
      (.ofTexts (file which) original (newText which)) refusal won place _ hfind hne hnot
    rw [hlost, if_neg hwho, WritePlan.ofTexts, Verification.hash_ofText]

/-- Attempts (`attemptEvents`) that are all refused do nothing. -/
theorem results_refused (h : store.Rivals place original file newText)
    (refused : List (Bool × WriteError)) :
    let events := attemptEvents original file newText (refused.map fun one => (one.1, some one.2))
    store.after events = store ∧
      store.results events = refused.map fun one => some (.error one.2) := by
  intro events
  have hidle : ∀ event ∈ events, event.step store = store := by
    intro event hevent
    obtain ⟨attempt, hattempt, rfl⟩ := List.mem_map.mp hevent
    obtain ⟨one, -, rfl⟩ := List.mem_map.mp hattempt
    exact congrArg Prod.snd (h.carryOut_refused one.1 one.2)
  obtain ⟨hafter, hresults⟩ := after_and_results_of_idle hidle
  refine ⟨hafter, hresults.trans ?_⟩
  simp only [events, attemptEvents, List.map_map]
  refine List.map_congr_left fun one _ => ?_
  exact congrArg (fun outcome => some outcome.1) (h.carryOut_refused one.1 one.2)

/-- Once one of the plans was written, nothing more is. -/
theorem results_won (h : store.Rivals place original file newText) (winner : Bool)
    (later : List (Bool × Option WriteError)) :
    let won := store.set place (Utf8.encode (newText winner))
    let events := attemptEvents original file newText later
    won.after events = won ∧
      won.results events = later.map fun attempt =>
        some (if attempt.1 = winner then .ok .unchanged
          else .error (.changed (file attempt.1) original.hash (newText winner).hash)) := by
  intro won events
  have hidle : ∀ event ∈ events, event.step won = won := by
    intro event hevent
    obtain ⟨attempt, -, rfl⟩ := List.mem_map.mp hevent
    exact congrArg Prod.snd (h.carryOut_won winner attempt.1 attempt.2)
  obtain ⟨hafter, hresults⟩ := after_and_results_of_idle hidle
  refine ⟨hafter, hresults.trans ?_⟩
  simp only [events, attemptEvents, List.map_map]
  refine List.map_congr_left fun attempt _ => ?_
  exact congrArg (fun outcome => some outcome.1) (h.carryOut_won winner attempt.1 attempt.2)

/-- **The first plan that is written wins.**  Before it, `results_refused`; from then on,
`results_won`. -/
theorem results_first (h : store.Rivals place original file newText)
    (refused : List (Bool × WriteError)) (winner : Bool) (later : List (Bool × Option WriteError)) :
    let events := attemptEvents original file newText
      ((refused.map fun one => (one.1, some one.2)) ++ (winner, none) :: later)
    store.after events = store.set place (Utf8.encode (newText winner)) ∧
      store.results events = (refused.map fun one => some (.error one.2)) ++
        some (.ok (.written (newText winner).size)) :: later.map fun attempt =>
          some (if attempt.1 = winner then .ok .unchanged
            else .error (.changed (file attempt.1) original.hash (newText winner).hash)) := by
  intro events
  obtain ⟨hafter, hresults⟩ := h.results_refused refused
  obtain ⟨hafter', hresults'⟩ := h.results_won winner later
  have hwin := h.carryOut_original winner
  have hevents : events = attemptEvents original file newText
      (refused.map fun one => (one.1, some one.2)) ++
      .carryOut (.ofTexts (file winner) original (newText winner)) none ::
        attemptEvents original file newText later := List.map_append
  rw [hevents, after_append, results_append, hafter, hresults]
  constructor
  · show FileStore.after (WritePlan.carryOut _ none store).2 _ = _
    rw [hwin]
    exact hafter'
  · rw [results, FileEvent.result?, FileEvent.step, hwin, hresults']

end Rivals

/-- Attempts begin with those that are refused, up to one that is not, if there is one. -/
theorem exists_first_attempt {Refusal : Type} (attempts : List (Bool × Option Refusal)) :
    ∃ refused : List (Bool × Refusal),
      attempts = (refused.map fun one => (one.1, some one.2)) ∨
      ∃ winner later,
        attempts = (refused.map fun one => (one.1, some one.2)) ++ (winner, none) :: later := by
  -- An attempt that is not refused is the first; one that is refused goes before those that follow.
  induction attempts with
  | nil => exact ⟨[], .inl rfl⟩
  | cons attempt rest ih =>
    obtain ⟨which, _ | refusal⟩ := attempt
    · exact ⟨[], .inr ⟨which, rest, rfl⟩⟩
    · obtain ⟨refused, heq | ⟨winner, later, heq⟩⟩ := ih
      · exact ⟨(which, refusal) :: refused, .inl (by rw [heq, List.map_cons])⟩
      · refine ⟨(which, refusal) :: refused, .inr ⟨winner, later, ?_⟩⟩
        rw [heq, List.map_cons, List.cons_append]

end FileStore

/-! ### No update is lost -/

/-- **No update is lost.**  After any events:

* a plan writes exactly if it may, and finds a text other than its new one that is the text it was
  made from, or, where that is longer than 1024 bytes, has its hash.  Its file then holds the new
  text, and no other file and no directory changes;
* a plan that does not write, because of an error or because there is nothing to do, leaves
  everything as it was; there is nothing to do exactly if the file holds the new text already;
* what a file holds stays until somebody else writes or removes the file, or a plan that was made
  from it is written;
* of two plans that were made from one text of at most 1024 bytes, the first that is written wins,
  in whatever order and however often they are tried: before, every attempt is refused, and after
  it the winner has nothing to do and the other is told that the file changed. -/
theorem WritePlan.no_update_lost (start : FileStore) (earlier : List FileEvent) :
    let store := start.after earlier
    (∀ file original newText refusal,
      let plan := WritePlan.ofTexts file original newText
      let result := (plan.carryOut refusal store).1
      let next := (plan.carryOut refusal store).2
      (∀ bytes, result = .ok (.written bytes) ↔
        refusal = none ∧ bytes = newText.size ∧
        ∃ place current, store.find file = .ok (place, Utf8.encode current) ∧
          current ≠ newText ∧
          (original.size ≤ 1024 ∧ current = original ∨
            1024 < original.size ∧ current.hash = original.hash)) ∧
      (∀ bytes, result = .ok (.written bytes) →
        next.directories = store.directories ∧ next.unlisted = store.unlisted ∧
        next.home = store.home ∧
        ∃ place content, store.find file = .ok (place, content) ∧
          next.get? place = some (Utf8.encode newText) ∧
          ∀ other, other ≠ place → next.get? other = store.get? other) ∧
      ((∀ bytes, result ≠ .ok (.written bytes)) → next = store) ∧
      (result = .ok .unchanged ↔
        ∃ place, store.find file = .ok (place, Utf8.encode newText))) ∧
    (∀ place content later, store.get? place = some content →
      (∀ event ∈ later, FileEvent.Spares start.home place content event) →
      (start.after (earlier ++ later)).get? place = some content) ∧
    ∀ place original file newText, store.Rivals place original file newText →
      ∀ attempts : List (Bool × Option WriteError),
        let events := FileStore.attemptEvents original file newText attempts
        ∃ refused : List (Bool × WriteError),
          (attempts = (refused.map fun one => (one.1, some one.2)) ∧
            store.after events = store ∧
            store.results events = refused.map fun one => some (.error one.2)) ∨
          ∃ winner later,
            attempts = (refused.map fun one => (one.1, some one.2)) ++ (winner, none) :: later ∧
            (store.after events).get? place = some (Utf8.encode (newText winner)) ∧
            (∀ other, other ≠ place → (store.after events).get? other = store.get? other) ∧
            store.results events = (refused.map fun one => some (.error one.2)) ++
              some (.ok (.written (newText winner).size)) :: later.map fun attempt =>
                some (if attempt.1 = winner then .ok .unchanged
                  else .error (.changed (file attempt.1) original.hash (newText winner).hash)) := by
  intro store
  refine ⟨?_, ?_, ?_⟩
  · intro file original newText refusal plan result next
    refine ⟨?_, ?_, WritePlan.carryOut_of_ne_written, WritePlan.carryOut_eq_unchanged_iff⟩
    · intro bytes
      constructor
      · intro hwritten
        obtain ⟨hrefusal, hbytes, place, current, hfind, hne, haccepts, -⟩ :=
          WritePlan.written_of_carryOut hwritten
        exact ⟨hrefusal, hbytes, place, current, hfind, hne,
          Verification.accepts_ofText_iff.mp haccepts⟩
      · rintro ⟨hrefusal, hbytes, place, current, hfind, hne, hrecognised⟩
        have hwritten := @WritePlan.carryOut_of_accepts plan store place current hfind hne
          (Verification.accepts_ofText_iff.mpr hrecognised)
        show (plan.carryOut refusal store).1 = _
        rw [hrefusal, hwritten, hbytes]
        rfl
    · intro bytes hwritten
      obtain ⟨-, -, place, current, hfind, -, -, hnext⟩ := WritePlan.written_of_carryOut hwritten
      have hset : next = store.set place (Utf8.encode newText) := hnext
      rw [hset]
      refine ⟨rfl, rfl, rfl, place, _, hfind, FileStore.get?_set_self _ _ _, ?_⟩
      intro other hother
      exact FileStore.get?_set_of_ne _ _ hother
  · intro place content later hget hspares
    rw [FileStore.after_append]
    refine FileStore.get?_after hget ?_
    rwa [show store.home = start.home from FileStore.home_after start earlier]
  · -- Either all attempts are refused, or there is a first that is not.
    intro place original file newText hrivals attempts events
    obtain ⟨refused, rfl | ⟨winner, later, rfl⟩⟩ := FileStore.exists_first_attempt attempts
    · obtain ⟨hafter, hresults⟩ := hrivals.results_refused refused
      exact ⟨refused, .inl ⟨rfl, hafter, hresults⟩⟩
    · obtain ⟨hafter, hresults⟩ := hrivals.results_first refused winner later
      refine ⟨refused, .inr ⟨winner, later, rfl, ?_, ?_, hresults⟩⟩
      · rw [hafter, FileStore.get?_set_self]
      · intro other hother
        rw [hafter, FileStore.get?_set_of_ne _ _ hother]

/-- An attempt is refused, the plan to write `y` is the first that is written, and the plan to write
`z` comes too late. -/
theorem WritePlan.no_update_lost_first_wins :
    let start : FileStore := {}
    let earlier : List FileEvent := [.put "a.js".toList (Utf8.encode ['x'])]
    let file : Bool → Text := fun which => if which then "a.js".toList else "./a.js".toList
    let newText : Bool → Text := fun which => if which then ['y'] else ['z']
    let attempts := [(false, some (WriteError.store .notDirectory)), (true, none), (false, none)]
    let events := FileStore.attemptEvents ['x'] file newText attempts
    (start.after earlier).Rivals ["a.js".toList] ['x'] file newText ∧
    ((start.after earlier).after events).get? ["a.js".toList] = some (Utf8.encode ['y']) := by
  intro start earlier file newText attempts events
  have hrivals : (start.after earlier).Rivals ["a.js".toList] ['x'] file newText := by
    refine ⟨by decide, by decide, by decide, fun which => ?_⟩
    cases which <;> rfl
  obtain ⟨refused, ⟨hattempts, -⟩ | ⟨winner, later, hattempts, hget, -⟩⟩ :=
    (WritePlan.no_update_lost start earlier).2.2 _ _ _ _ hrivals attempts
  · -- The second attempt is not refused.
    obtain _ | ⟨one, _ | ⟨two, rest⟩⟩ := refused <;> simp [attempts] at hattempts
  · refine ⟨hrivals, ?_⟩
    obtain _ | ⟨one, _ | ⟨two, rest⟩⟩ := refused <;> simp [attempts] at hattempts
    obtain ⟨-, rfl, -⟩ := hattempts
    exact hget

end SyntaxGraft
