import Mathlib.Data.List.Nodup
import SyntaxGraft.Proofs.Selector.Cache
/-!
# Histories of a cache

What holds of a cache after any calls whatever, starting from an empty one: it is within its
capacity, no text is kept twice, and every entry is the compilation of its text
(`SelectorCache.Kept`, with a step lemma and a run lemma).

Two calls with one text hand out the same object as long as nothing emptied the cache between them
(`SelectorCache.find?_after`).  Once it was emptied the object is gone for good
(`SelectorCache.Gone`), since every compilation takes a serial number of its own.
-/

namespace SyntaxGraft.SelectorCache

/-! ### Calls -/

/-- What can be asked of a cache. -/
inductive Call where
  | compile (text : Text)
  | clear

/-- The cache after a call; one that fails leaves it (`SelectorCache.compile`). -/
def Call.step (cache : SelectorCache) : Call → SelectorCache
  | .compile text => (cache.compile text).2
  | .clear => cache.clear

/-- The cache after some calls, one after the other. -/
def after (cache : SelectorCache) (calls : List Call) : SelectorCache :=
  calls.foldl Call.step cache

/-- The call empties the cache: it clears it, or it compiles a text that is not kept while the cache
is full. -/
def Call.Empties (cache : SelectorCache) : Call → Prop
  | .compile text =>
    cache.find? text = none ∧ (∃ selector, Selector.compile text = .ok selector) ∧
      cache.size = capacity
  | .clear => True

@[simp]
theorem after_nil (cache : SelectorCache) : cache.after [] = cache := rfl

@[simp]
theorem after_cons (cache : SelectorCache) (call : Call) (calls : List Call) :
    cache.after (call :: calls) = (call.step cache).after calls := rfl

variable {cache : SelectorCache} {text other : Text} {compiled : Compiled}

/-- **What compiling does.**  The text is kept and nothing changes, or it does not compile and
nothing changes, or its compilation is put in. -/
theorem compile_cases (cache : SelectorCache) (text : Text) :
    (∃ found, cache.find? text = some found ∧ cache.compile text = (.ok found, cache)) ∨
    (∃ error, cache.find? text = none ∧ Selector.compile text = .error error ∧
      cache.compile text = (.error error, cache)) ∨
    ∃ selector, cache.find? text = none ∧ Selector.compile text = .ok selector ∧
      cache.compile text = (.ok ⟨cache.nextSerial, selector⟩, cache.insert text selector) := by
  rw [compile]
  cases hfind : cache.find? text with
  | some found => exact .inl ⟨found, rfl, rfl⟩
  | none =>
    cases hcompile : Selector.compile text with
    | error error => exact .inr (.inl ⟨error, rfl, rfl, rfl⟩)
    | ok selector => exact .inr (.inr ⟨selector, rfl, rfl, rfl⟩)

/-- **What a call does to the cache.**  It clears it, or leaves it, or puts in the compilation of a
text that was not kept. -/
theorem Call.step_cases (cache : SelectorCache) (call : Call) :
    (call = .clear ∧ call.step cache = cache.clear) ∨ call.step cache = cache ∨
    ∃ text selector, call = .compile text ∧ cache.find? text = none ∧
      Selector.compile text = .ok selector ∧ call.step cache = cache.insert text selector := by
  cases call with
  | clear => exact .inl ⟨rfl, rfl⟩
  | compile text =>
    rcases cache.compile_cases text with
      ⟨found, -, heq⟩ | ⟨error, -, -, heq⟩ | ⟨selector, hfind, hselector, heq⟩
    · exact .inr (.inl (congrArg Prod.snd heq))
    · exact .inr (.inl (congrArg Prod.snd heq))
    · exact .inr (.inr ⟨text, selector, rfl, hfind, hselector, congrArg Prod.snd heq⟩)

theorem find?_eq_none_iff : cache.find? text = none ↔ text ∉ cache.entries.map Prod.fst := by
  rw [find?, Option.map_eq_none_iff, List.find?_eq_none, List.mem_map]
  refine ⟨fun h ⟨entry, hentry, htext⟩ => h entry hentry (decide_eq_true htext), ?_⟩
  intro h entry hentry htext
  exact h ⟨entry, hentry, of_decide_eq_true htext⟩

/-- A text that compiles (`Selector.compile`) is compiled by every cache, whatever is kept there. -/
theorem exists_compile_eq_ok (cache : SelectorCache) (h : (Selector.compile text).isOk = true) :
    ∃ compiled, (cache.compile text).1 = .ok compiled := by
  rcases cache.compile_cases text with
    ⟨found, -, heq⟩ | ⟨error, -, herror, -⟩ | ⟨selector, -, -, heq⟩
  · exact ⟨found, congrArg Prod.fst heq⟩
  · rw [herror] at h
    cases h
  · exact ⟨_, congrArg Prod.fst heq⟩

/-- What is kept after an `insert`: the compilation under its text, and the others unless the cache
was full. -/
theorem find?_insert_eq (cache : SelectorCache) (text other : Text) (selector : Selector) :
    (cache.insert text selector).find? other =
      if text = other then some ⟨cache.nextSerial, selector⟩
      else if capacity ≤ cache.size then none else cache.find? other := by
  rw [find?, insert, List.find?_cons]
  by_cases htext : text = other
  · simp [htext]
  · by_cases hfull : capacity ≤ cache.size
    · simp [htext, hfull]
    · simp [htext, hfull, find?]

/-! ### What every cache is like -/

/-- A cache as it is kept: within its capacity, no text twice, and all serial numbers used up. -/
structure Kept (cache : SelectorCache) : Prop where
  size_le : cache.size ≤ capacity
  distinct : (cache.entries.map Prod.fst).Nodup
  serial_lt : ∀ entry ∈ cache.entries, entry.2.serial < cache.nextSerial

namespace Kept

theorem empty : Kept {} :=
  ⟨Nat.zero_le _, List.nodup_nil, List.forall_mem_nil _⟩

theorem clear (cache : SelectorCache) : cache.clear.Kept :=
  ⟨Nat.zero_le _, List.nodup_nil, List.forall_mem_nil _⟩

/-- `Kept` survives an `insert` of a text that is not kept. -/
theorem insert (h : cache.Kept) (hfind : cache.find? text = none) (selector : Selector) :
    (cache.insert text selector).Kept := by
  have hnew := find?_eq_none_iff.mp hfind
  have hserial : ∀ entry ∈ cache.entries, entry.2.serial < cache.nextSerial + 1 :=
    fun entry hentry => Nat.lt_succ_of_lt (h.serial_lt entry hentry)
  unfold SelectorCache.insert
  by_cases hfull : capacity ≤ cache.size
  · -- The others go, so only the new entry is left.
    rw [if_pos hfull]
    refine ⟨?_, List.nodup_singleton _, ?_⟩
    · show 1 ≤ 256
      omega
    · intro entry hentry
      obtain rfl := List.mem_singleton.mp hentry
      exact Nat.lt_succ_self _
  · rw [if_neg hfull]
    refine ⟨?_, List.nodup_cons.mpr ⟨hnew, h.distinct⟩, ?_⟩
    · show cache.size + 1 ≤ capacity
      omega
    · exact List.forall_mem_cons.mpr ⟨Nat.lt_succ_self _, hserial⟩

theorem step (h : cache.Kept) (call : Call) : (call.step cache).Kept := by
  rcases call.step_cases cache with
    ⟨-, hstep⟩ | hstep | ⟨text, selector, -, hfind, -, hstep⟩
  · rw [hstep]
    exact .clear cache
  · rw [hstep]
    exact h
  · rw [hstep]
    exact h.insert hfind selector

theorem after (h : cache.Kept) (calls : List Call) : (cache.after calls).Kept := by
  induction calls generalizing cache with
  | nil => exact h
  | cons call calls ih => exact ih (h.step call)

/-- An entry is what `find?` has under its text, as no text is there twice. -/
theorem find?_of_mem (h : cache.Kept) {entry : Text × Compiled} (hentry : entry ∈ cache.entries) :
    cache.find? entry.1 = some entry.2 := by
  have hsome : (cache.entries.find? fun e => e.1 = entry.1).isSome = true :=
    List.find?_isSome.mpr ⟨entry, hentry, decide_eq_true rfl⟩
  obtain ⟨found, hfound⟩ := Option.isSome_iff_exists.mp hsome
  have htext : found.1 = entry.1 := by simpa using List.find?_some hfound
  have hsame : found = entry :=
    List.inj_on_of_nodup_map h.distinct (List.mem_of_find?_eq_some hfound) hentry htext
  rw [find?, hfound, hsame]
  rfl

/-- What `find?` gives has a serial number that was used up. -/
theorem serial_lt_of_find? (h : cache.Kept) (hfind : cache.find? text = some compiled) :
    compiled.serial < cache.nextSerial := by
  obtain ⟨entry, hentry, rfl⟩ := Option.map_eq_some_iff.mp hfind
  exact h.serial_lt entry (List.mem_of_find?_eq_some hentry)

end Kept

theorem Reached.after (h : cache.Reached) (calls : List Call) : (cache.after calls).Reached := by
  induction calls generalizing cache with
  | nil => exact h
  | cons call calls ih =>
    cases call with
    | compile text => exact ih (h.compile text)
    | clear => exact ih h.clear

/-! ### What is kept, and what is gone -/

/-- A compilation that `compile` hands out is kept. -/
theorem find?_of_compile_eq_ok (h : (cache.compile text).1 = .ok compiled) :
    (cache.compile text).2.find? text = some compiled := by
  rcases cache.compile_cases text with
    ⟨found, hfind, heq⟩ | ⟨error, -, -, heq⟩ | ⟨selector, -, -, heq⟩
  · rw [heq] at h ⊢
    obtain rfl := Except.ok.inj h
    exact hfind
  · rw [heq] at h
    cases h
  · rw [heq] at h ⊢
    obtain rfl := Except.ok.inj h
    rw [find?_insert_eq, if_pos rfl]

/-- A call that does not empty the cache leaves what is kept: the step of `find?_after`. -/
theorem find?_step (hkept : cache.Kept) {call : Call} (hcall : ¬ call.Empties cache)
    (h : cache.find? text = some compiled) : (call.step cache).find? text = some compiled := by
  rcases call.step_cases cache with
    ⟨rfl, -⟩ | hstep | ⟨other, selector, rfl, hother, hselector, hstep⟩
  · exact absurd trivial hcall
  · rw [hstep]
    exact h
  · have hne : other ≠ text := by
      rintro rfl
      rw [hother] at h
      cases h
    -- The text is new and compiles, so with a full cache this call would empty it.
    have hroom : ¬ capacity ≤ cache.size := by
      intro hfull
      exact hcall ⟨hother, ⟨selector, hselector⟩, Nat.le_antisymm hkept.size_le hfull⟩
    rw [hstep, find?_insert_eq, if_neg hne, if_neg hroom]
    exact h

/-- No call of the history empties the cache (`Call.Empties`). -/
def NeverEmptied (cache : SelectorCache) (calls : List Call) : Prop :=
  ∀ before call later, calls = before ++ call :: later → ¬ call.Empties (cache.after before)

theorem neverEmptied_cons {call : Call} {calls : List Call} :
    cache.NeverEmptied (call :: calls) ↔
      ¬ call.Empties cache ∧ (call.step cache).NeverEmptied calls := by
  constructor
  · intro h
    refine ⟨h [] call calls rfl, ?_⟩
    rintro before next later rfl
    exact h (call :: before) next later rfl
  · rintro ⟨hfirst, hrest⟩ before next later heq
    cases before with
    | nil =>
      obtain ⟨rfl, -⟩ := List.cons.inj heq
      exact hfirst
    | cons head before =>
      obtain ⟨rfl, hcalls⟩ := List.cons.inj heq
      exact hrest before next later hcalls

/-- Texts that are new to a cache and that it has room for are put in one after the other. -/
theorem map_fst_entries_after {texts : List Text}
    (hnew : (texts.reverse ++ cache.entries.map Prod.fst).Nodup)
    (hcompile : ∀ text ∈ texts, (Selector.compile text).isOk = true)
    (hroom : cache.size + texts.length ≤ capacity) :
    (cache.after (texts.map .compile)).entries.map Prod.fst
      = texts.reverse ++ cache.entries.map Prod.fst := by
  induction texts generalizing cache with
  | nil => rfl
  | cons text rest ih =>
    rw [List.reverse_cons, List.append_assoc, List.singleton_append] at hnew ⊢
    rw [List.length_cons] at hroom
    have hfind : cache.find? text = none :=
      find?_eq_none_iff.mpr (List.nodup_cons.mp hnew.of_append_right).1
    have hok := hcompile text List.mem_cons_self
    rcases cache.compile_cases text with
      ⟨found, hsome, -⟩ | ⟨error, -, herror, -⟩ | ⟨selector, -, -, heq⟩
    · rw [hfind] at hsome
      cases hsome
    · rw [herror] at hok
      cases hok
    · have hkept : ¬ capacity ≤ cache.size := by omega
      have hentries : (cache.compile text).2.entries
          = (text, ⟨cache.nextSerial, selector⟩) :: cache.entries := by
        rw [heq]
        simp [insert, hkept]
      have hsize : (cache.compile text).2.size = cache.size + 1 := by
        rw [size, hentries]
        rfl
      have hfst : (cache.compile text).2.entries.map Prod.fst
          = text :: cache.entries.map Prod.fst := by
        rw [hentries]
        rfl
      rw [List.map_cons, after_cons, Call.step, ← hfst]
      refine ih ?_ (fun other hother => hcompile other (List.mem_cons_of_mem _ hother)) ?_
      · rwa [hfst]
      · omega

/-- What is kept stays kept through a history that `NeverEmptied` holds of. -/
theorem find?_after (hkept : cache.Kept) {calls : List Call} (hcalls : cache.NeverEmptied calls)
    (h : cache.find? text = some compiled) : (cache.after calls).find? text = some compiled := by
  induction calls generalizing cache with
  | nil => exact h
  | cons call calls ih =>
    obtain ⟨hcall, hrest⟩ := neverEmptied_cons.mp hcalls
    exact ih (hkept.step call) hrest (find?_step hkept hcall h)

/-- The compilation of this number is not kept under the text, and its number is used up.  The
second part is what makes the first one last: no `insert` uses the number again. -/
structure Gone (cache : SelectorCache) (text : Text) (serial : Nat) : Prop where
  serial_lt : serial < cache.nextSerial
  ne_of_find? : ∀ compiled, cache.find? text = some compiled → compiled.serial ≠ serial

variable {serial : Nat}

/-- A compilation that is put in has a new number. -/
theorem Gone.of_insert (hserial : serial < cache.nextSerial) (selector : Selector)
    (h : ¬ capacity ≤ cache.size → cache.Gone text serial) :
    (cache.insert other selector).Gone text serial := by
  refine ⟨Nat.lt_succ_of_lt hserial, ?_⟩
  intro compiled hfind
  rw [find?_insert_eq] at hfind
  split at hfind
  next =>
    obtain rfl := Option.some.inj hfind
    exact Nat.ne_of_gt hserial
  next =>
    split at hfind
    next => cases hfind
    next hroom => exact (h hroom).ne_of_find? compiled hfind

theorem Gone.of_clear (hserial : serial < cache.nextSerial) : cache.clear.Gone text serial :=
  ⟨hserial, fun compiled hfind => by cases hfind⟩

/-- A call that empties the cache does away with every compilation so far. -/
theorem Gone.of_empties {call : Call} (hcall : call.Empties cache)
    (hserial : serial < cache.nextSerial) : (call.step cache).Gone text serial := by
  cases call with
  | clear => exact .of_clear hserial
  | compile other =>
    obtain ⟨hother, ⟨selector, hselector⟩, hfull⟩ := hcall
    show (cache.compile other).2.Gone text serial
    rw [compile, hother, hselector]
    exact .of_insert hserial selector fun hroom => absurd (Nat.le_of_eq hfull.symm) hroom

/-- What is `Gone` never comes back. -/
theorem Gone.step (h : cache.Gone text serial) (call : Call) :
    (call.step cache).Gone text serial := by
  rcases call.step_cases cache with
    ⟨-, hstep⟩ | hstep | ⟨other, selector, -, -, -, hstep⟩
  · rw [hstep]
    exact .of_clear h.serial_lt
  · rw [hstep]
    exact h
  · rw [hstep]
    exact .of_insert h.serial_lt selector fun _ => h

theorem Gone.after (h : cache.Gone text serial) (calls : List Call) :
    (cache.after calls).Gone text serial := by
  induction calls generalizing cache with
  | nil => exact h
  | cons call calls ih => exact ih (h.step call)

/-- What is `Gone` is not handed out again. -/
theorem Gone.serial_ne (h : cache.Gone text serial)
    (hcompile : (cache.compile text).1 = .ok compiled) : compiled.serial ≠ serial :=
  (h.step (.compile text)).ne_of_find? compiled (find?_of_compile_eq_ok hcompile)

theorem nextSerial_step_le (cache : SelectorCache) (call : Call) :
    cache.nextSerial ≤ (call.step cache).nextSerial := by
  rcases call.step_cases cache with ⟨-, hstep⟩ | hstep | ⟨text, selector, -, -, -, hstep⟩
  · exact Nat.le_of_eq (congrArg nextSerial hstep).symm
  · exact Nat.le_of_eq (congrArg nextSerial hstep).symm
  · rw [hstep]
    exact Nat.le_succ _

/-- Once the cache was emptied, every compilation from before is gone (`Gone`). -/
theorem gone_of_not_neverEmptied {calls : List Call} (hcalls : ¬ cache.NeverEmptied calls)
    (hserial : serial < cache.nextSerial) : (cache.after calls).Gone text serial := by
  -- Up to the first call that empties the cache there is nothing to show but numbers used up.
  induction calls generalizing cache with
  | nil =>
    refine absurd ?_ hcalls
    intro before call later heq
    simp at heq
  | cons call calls ih =>
    by_cases hcall : call.Empties cache
    · exact (Gone.of_empties hcall hserial).after calls
    · have hrest : ¬ (call.step cache).NeverEmptied calls :=
        fun hrest => hcalls (neverEmptied_cons.mpr ⟨hcall, hrest⟩)
      exact ih hrest (Nat.lt_of_lt_of_le hserial (nextSerial_step_le cache call))

/-- **Objects are shared between emptyings.**  A text that is compiled twice gives one object
exactly if nothing emptied the cache in between. -/
theorem serial_eq_iff (hkept : cache.Kept) {between : List Call} {first second : Compiled}
    (hfirst : (cache.compile text).1 = .ok first)
    (hsecond : (((cache.compile text).2.after between).compile text).1 = .ok second) :
    first.serial = second.serial ↔ (cache.compile text).2.NeverEmptied between := by
  have hkept' : (cache.compile text).2.Kept := hkept.step (.compile text)
  have hfind : (cache.compile text).2.find? text = some first := find?_of_compile_eq_ok hfirst
  constructor
  · intro hsame
    by_contra hemptied
    have hgone : ((cache.compile text).2.after between).Gone text first.serial :=
      gone_of_not_neverEmptied hemptied (hkept'.serial_lt_of_find? hfind)
    exact hgone.serial_ne hsecond hsame.symm
  · intro hnever
    have hstill := find?_after hkept' hnever hfind
    rw [compile, hstill] at hsecond
    obtain rfl := Except.ok.inj hsecond
    rfl

/-! ### Histories -/

/-- **The cache is invisible and bounded.**  After any calls, starting from an empty cache:

* at most 256 selectors are kept, each under one text, which it is the compilation of;
* compiling a text gives what the text compiles to, or the error that it is refused with;
* a call that fails leaves the cache as it was, and so does one that finds its text;
* two successful calls with one text give the same object exactly if between them the cache was not
  cleared, and nothing was compiled that was not kept while 256 selectors were. -/
theorem compile_after_history (calls : List Call) :
    let cache := after {} calls
    cache.size ≤ 256 ∧ (cache.entries.map Prod.fst).Nodup ∧
    (∀ entry ∈ cache.entries, Selector.compile entry.1 = .ok entry.2.selector) ∧
    (∀ text, (cache.compile text).1.map Compiled.selector = Selector.compile text) ∧
    (∀ text error, (cache.compile text).1 = .error error → (cache.compile text).2 = cache) ∧
    (∀ text, (cache.find? text).isSome = true → (cache.compile text).2 = cache) ∧
    ∀ text between first second, (cache.compile text).1 = .ok first →
      (((cache.compile text).2.after between).compile text).1 = .ok second →
      (first.serial = second.serial ↔
        ∀ before call later, between = before ++ call :: later →
          call ≠ .clear ∧
          ∀ other, call = .compile other →
            ¬ (((cache.compile text).2.after before).find? other = none ∧
              (∃ selector, Selector.compile other = .ok selector) ∧
              ((cache.compile text).2.after before).size = 256)) := by
  intro cache
  have hkept : cache.Kept := Kept.empty.after calls
  have hreached : cache.Reached := Reached.empty.after calls
  refine ⟨hkept.size_le, hkept.distinct, ?_, hreached.map_selector_compile, ?_, ?_, ?_⟩
  · intro entry hentry
    exact hreached.compile_of_find? (hkept.find?_of_mem hentry)
  · intro text error herror
    rcases cache.compile_cases text with
      ⟨found, -, heq⟩ | ⟨_, -, -, heq⟩ | ⟨selector, -, -, heq⟩
    · rw [heq]
    · rw [heq]
    · rw [heq] at herror
      cases herror
  · intro text hsome
    obtain ⟨found, hfind⟩ := Option.isSome_iff_exists.mp hsome
    rw [compile, hfind]
  · intro text between first second hfirst hsecond
    rw [serial_eq_iff hkept hfirst hsecond]
    refine forall₄_congr fun before call later heq => ?_
    cases call with
    | clear => simp [Call.Empties]
    | compile other => simp [Call.Empties, capacity]

/-- As many names as a cache holds. -/
def letterPairs : List Text :=
  (List.range capacity).map fun n => [Char.ofNat (97 + n / 16), Char.ofNat (97 + n % 16)]

theorem map_fst_entries_letterPairs :
    (after {} (letterPairs.map .compile)).entries.map Prod.fst = letterPairs.reverse := by
  have hnumbers : letterPairs.map (fun pair =>
      pair.foldl (fun number letter => number * 16 + (letter.toNat - 97)) 0)
        = List.range capacity := by
    decide +kernel
  have hnodup : letterPairs.Nodup := List.Nodup.of_map _ (hnumbers ▸ List.nodup_range)
  have hentries := @map_fst_entries_after {} letterPairs (by simpa using hnodup)
    (by decide +kernel) (by simp [size, letterPairs])
  simpa using hentries

theorem size_after_letterPairs : (after {} (letterPairs.map .compile)).size = capacity := by
  rw [size, ← List.length_map Prod.fst, map_fst_entries_letterPairs]
  simp [letterPairs]

/-- A text that is found and one that is refused leave the object of `a`, and a clearing does
not.  Nor does one more name leave the object of `aa` in a full cache. -/
theorem compile_after_history_shared :
    let cache := after {} [.compile ['b'], .clear, .compile ['c']]
    let held := (cache.compile ['a']).2.after [.compile ['c'], .compile ['[']]
    let cleared := (cache.compile ['a']).2.after [.clear]
    let full := after {} (letterPairs.map .compile)
    let emptied := (full.compile ['a', 'a']).2.after [.compile ['z']]
    (∃ first second third, (cache.compile ['a']).1 = .ok first ∧
      (held.compile ['a']).1 = .ok second ∧ (cleared.compile ['a']).1 = .ok third ∧
      first.serial = second.serial ∧ first.serial ≠ third.serial) ∧
    full.size = 256 ∧ ∃ first second, (full.compile ['a', 'a']).1 = .ok first ∧
      (emptied.compile ['a', 'a']).1 = .ok second ∧ first.serial ≠ second.serial := by
  refine ⟨?_, ?_⟩
  · obtain ⟨-, -, -, -, -, -, hshared⟩ :=
      compile_after_history [.compile ['b'], .clear, .compile ['c']]
    refine ⟨_, _, _, rfl, rfl, rfl, ?_, ?_⟩
    · refine (hshared ['a'] [.compile ['c'], .compile ['[']] _ _ rfl rfl).mpr ?_
      rintro (_ | ⟨first, _ | ⟨second, before⟩⟩) call later heq
      · obtain ⟨rfl, -⟩ := List.cons.inj heq
        refine ⟨nofun, ?_⟩
        rintro other hother ⟨hfind, -, -⟩
        obtain rfl := Call.compile.inj hother
        cases hfind
      · obtain ⟨rfl, hrest⟩ := List.cons.inj heq
        obtain ⟨rfl, -⟩ := List.cons.inj hrest
        refine ⟨nofun, ?_⟩
        rintro other hother ⟨-, ⟨selector, hselector⟩, -⟩
        obtain rfl := Call.compile.inj hother
        cases hselector
      · simp at heq
    · rw [Ne, hshared ['a'] [.clear] _ _ rfl rfl]
      intro hnever
      exact (hnever [] .clear [] rfl).1 rfl
  · obtain ⟨-, -, -, -, -, hkept, hshared⟩ := compile_after_history (letterPairs.map .compile)
    have hentries := map_fst_entries_letterPairs
    have hfull := size_after_letterPairs
    -- From here on it does not matter how the cache became full.
    generalize after {} (letterPairs.map .compile) = full at *
    have hfind : full.find? ['z'] = none := by
      rw [find?_eq_none_iff, hentries]
      decide +kernel
    have hsame : (full.compile ['a', 'a']).2 = full := by
      refine hkept _ (Option.isSome_iff_ne_none.mpr ?_)
      rw [Ne, find?_eq_none_iff, hentries]
      decide +kernel
    have hpair : (Selector.compile ['a', 'a']).isOk = true := rfl
    obtain ⟨first, hfirst⟩ := full.exists_compile_eq_ok hpair
    obtain ⟨second, hsecond⟩ :=
      ((full.compile ['a', 'a']).2.after [.compile ['z']]).exists_compile_eq_ok hpair
    refine ⟨hfull, first, second, hfirst, hsecond, ?_⟩
    rw [Ne, hshared _ _ _ _ hfirst hsecond]
    intro hnever
    refine (hnever [] (.compile ['z']) [] rfl).2 ['z'] rfl ⟨?_, ⟨_, rfl⟩, ?_⟩
    · rw [after_nil, hsame]
      exact hfind
    · rw [after_nil, hsame]
      exact hfull

end SyntaxGraft.SelectorCache
