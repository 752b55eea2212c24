import SyntaxGraft.Command.Run
import SyntaxGraft.Proofs.Store.Interleaving
/-!
# One input after the other

What an input adds to a run, its share, is decided by what is read from it (`Job.share`).  A step
of a run adds the share of its input and writes at most the file of that input (`replaceInput_eq`,
`applyInput_eq`, `Sources.taken_cases`).  Where no two inputs lead to one file, no step changes what
the later ones read (`readings_taken`), so each input finds its file as it was at the start, and a
run adds up the shares (`Job.run_spec`).
-/

namespace SyntaxGraft.Command

/-! ### Shares -/

/-- What is read from each input (`Input.read`) where no file is written in between. -/
def readings (sources : Sources) : List Input → List (Input × Except String Text)
  | [] => []
  | input :: rest => (input, (input.read sources).1) :: readings (input.read sources).2 rest

/-- What an input adds to a run.  The nodes that a search has `found` are listed together at the
end, so they are no part of the `report` yet. -/
structure Share where
  found : List Found := []
  report : Report := {}
  /-- The text that its file is written with. -/
  written? : Option Text := none

namespace Share

/-- The share of an input with a fault: a failure, told under the `label` of the input. -/
def ofFault (input : Input) (message : String) : Share :=
  { report := .ofInputFault input.label message }

/-- The share of an input whose text changes.  The standard input is printed in any case, a file
only if it is another text, and then as a diff unless it is written. -/
def ofChange (write : Bool) (input : Input) (before after : Text) (replacements : Nat) : Share :=
  match input with
  | .standard => { report := .ofOutput after }
  | .file path =>
    if before = after then {}
    else if write then
      { report := .ofOutput (showRewrite path replacements), written? := some after }
    else { report := .ofOutput (showChange path before after) }

end Share

/-- A command (`Request`) whose selector, replacement or rules are ready. -/
inductive Job where
  | search (selector : Selector) (listing : Listing)
  | replace (selector : Selector) (fragment : Fragment) (write : Bool)
  | apply (rules : List Rule) (write : Bool)

namespace Job

/-- The share of an input, from which a text (`.ok`) or a fault (`.error`) is read. -/
def share (grammar : Grammar) (job : Job) (input : Input) : Except String Text → Share
  | .error message => .ofFault input message
  | .ok text =>
    match job with
    | .search selector _ =>
      match Tree.parse grammar text with
      | .error error => .ofFault input error.message
      | .ok tree => { found := [⟨input.label, selector.evaluate tree⟩] }
    | .replace selector fragment write =>
      match selector.replace grammar fragment text with
      | .error error => .ofFault input error.message
      | .ok outcome => .ofChange write input text outcome.output outcome.replacements
    | .apply rules write =>
      let applied := (applyRules grammar {} text rules).1
      let share := Share.ofChange write input text applied.output applied.replacements
      let faults := applied.failures.foldr (fun failure report =>
        ruleFault input.label failure ++ report) {}
      { share with report := faults ++ share.report }

/-- The text that the file at a `path` is written with, judged by what it holds at the start. -/
def written? (grammar : Grammar) (job : Job) (sources : Sources) (path : Text) : Option Text :=
  (job.share grammar (.file path) ((Input.file path).read sources).1).written?

/-- The input cannot be read or parsed, or one of the rules fails on it. -/
def Fails (grammar : Grammar) (job : Job) : Except String Text → Prop
  | .error _ => True
  | .ok text =>
    match job with
    | .search _ _ => ∃ error, Tree.parse grammar text = .error error
    | .replace selector fragment _ => ∃ error, selector.replace grammar fragment text = .error error
    | .apply rules _ => (applyRules grammar {} text rules).1.failures ≠ []

/-- The job may write files, which a `search` never may. -/
def writes : Job → Bool
  | .search _ _ => false
  | .replace _ _ write => write
  | .apply _ write => write

/-- What becomes of a text, if it does not fail; a `search` makes nothing of it. -/
def rewritten? (grammar : Grammar) : Job → Text → Option Text
  | .search _ _, _ => none
  | .replace selector fragment _, text =>
    (selector.replace grammar fragment text).toOption.map (·.output)
  | .apply rules _, text => some (applyRules grammar {} text rules).1.output

/-- The report of a run whose inputs have these `shares`. -/
def report (job : Job) (shares : List Share) : Report :=
  let reports := shares.foldr (fun share total => share.report ++ total) {}
  match job with
  | .search _ listing => .ofOutput (listing.render (shares.flatMap (·.found))) ++ reports
  | .replace _ _ _ => reports
  | .apply _ _ => reports

/-- The job done for some `inputs`, which a `Request` comes down to. -/
def run (grammar : Grammar) (sources : Sources) (inputs : List Input) : Job → Report × Sources
  | .search selector listing =>
    let ((found, report), sources) := searchInputs grammar selector sources inputs
    (.ofOutput (listing.render found) ++ report, sources)
  | .replace selector fragment write =>
    forInputs (replaceInput grammar selector fragment write) sources inputs
  | .apply rules write => forInputs (applyInput grammar rules write) sources inputs

end Job

variable {grammar : Grammar} {sources : Sources} {input : Input} {path before : Text}

/-! ### What shares say -/

theorem Share.written?_ofChange_false (input : Input) (before after : Text) (replacements : Nat) :
    (ofChange false input before after replacements).written? = none := by
  cases input with
  | standard => rfl
  | file path =>
    rw [ofChange]
    split <;> rfl

theorem Share.getD_written?_ofChange (path before after : Text) (replacements : Nat) :
    (ofChange true (.file path) before after replacements).written?.getD before = after := by
  rw [ofChange]
  by_cases hsame : before = after
  · rw [if_pos hsame, hsame]
    rfl
  · rw [if_neg hsame]
    rfl

/-- A job that may not write (`Job.writes`) has no text for any file. -/
theorem Job.written?_share_eq_none {job : Job} (h : job.writes = false) (input : Input)
    (reading : Except String Text) : (job.share grammar input reading).written? = none := by
  cases reading with
  | error message => rfl
  | ok text =>
    cases job with
    | search selector listing =>
      dsimp only [share]
      cases Tree.parse grammar text <;> rfl
    | replace selector fragment write =>
      obtain rfl : write = false := h
      dsimp only [share]
      cases selector.replace grammar fragment text with
      | error error => rfl
      | ok outcome => exact Share.written?_ofChange_false input text _ _
    | apply rules write =>
      obtain rfl : write = false := h
      exact Share.written?_ofChange_false input text _ _

/-- What a file holds in the end is what becomes of its text, or else its text. -/
theorem Job.getD_written?_share {job : Job} (h : job.writes = true) (path text : Text) :
    (job.share grammar (.file path) (.ok text)).written?.getD text
      = (job.rewritten? grammar text).getD text := by
  cases job with
  | search selector listing => cases h
  | replace selector fragment write =>
    obtain rfl : write = true := h
    dsimp only [share, rewritten?]
    cases selector.replace grammar fragment text with
    | error error => rfl
    | ok outcome => exact Share.getD_written?_ofChange path text _ _
  | apply rules write =>
    obtain rfl : write = true := h
    exact Share.getD_written?_ofChange path text _ _

/-- A change is no failure, printed or written. -/
theorem Share.failures_ofChange (write : Bool) (input : Input) (before after : Text)
    (replacements : Nat) :
    (ofChange write input before after replacements).report.failures = 0 := by
  unfold ofChange
  split
  · rfl
  · split
    · rfl
    · split <;> rfl

theorem failures_ruleFaults (label : Text) (failures : List (Text × Error)) :
    (failures.foldr (fun failure report => ruleFault label failure ++ report) {}).failures
      = failures.length := by
  induction failures with
  | nil => rfl
  | cons failure rest ih =>
    show 1 + Report.failures _ = _
    rw [ih, List.length_cons, Nat.add_comm]

/-- A share counts a failure if and only if its input fails (`Job.Fails`). -/
theorem Job.failures_share_eq_zero_iff (job : Job) (input : Input) (reading : Except String Text) :
    (job.share grammar input reading).report.failures = 0 ↔ ¬ job.Fails grammar reading := by
  have hfault : ∀ message, (Share.ofFault input message).report.failures ≠ 0 := by
    intro message
    exact Nat.one_ne_zero
  cases reading with
  | error message => simpa [share, Fails] using hfault message
  | ok text =>
    cases job with
    | search selector listing =>
      dsimp only [share, Fails]
      cases Tree.parse grammar text with
      | error error => simpa using hfault error.message
      | ok tree => simp
    | replace selector fragment write =>
      dsimp only [share, Fails]
      cases selector.replace grammar fragment text with
      | error error => simpa using hfault error.message
      | ok outcome => simpa using Share.failures_ofChange _ _ _ _ _
    | apply rules write =>
      dsimp only [share, Fails]
      -- One failure for each rule that fails, and none for the change.
      show Report.failures _ + Report.failures _ = 0 ↔ _
      rw [failures_ruleFaults, Share.failures_ofChange, Nat.add_zero,
        List.length_eq_zero_iff, Decidable.not_not]

/-- A report (`Job.report`) counts the failures of the shares. -/
theorem Job.failures_report_eq_zero_iff (job : Job) (shares : List Share) :
    (job.report shares).failures = 0 ↔ ∀ share ∈ shares, share.report.failures = 0 := by
  have hsum : (shares.foldr (fun (share : Share) total => share.report ++ total) {}).failures = 0 ↔
      ∀ share ∈ shares, share.report.failures = 0 := by
    induction shares with
    | nil => exact ⟨fun _ _ => nofun, fun _ => rfl⟩
    | cons share rest ih =>
      rw [List.forall_mem_cons, ← ih]
      exact Nat.add_eq_zero_iff
  cases job with
  | search selector listing =>
    show 0 + Report.failures _ = 0 ↔ _
    rw [Nat.zero_add]
    exact hsum
  | replace selector fragment write => exact hsum
  | apply rules write => exact hsum

/-- The exit code (`Report.exitCode`) tells whether some input failed. -/
theorem Job.exitCode_report_eq_zero_iff (job : Job) (read : List (Input × Except String Text)) :
    (job.report (read.map fun one => job.share grammar one.1 one.2)).exitCode = 0 ↔
      ∀ one ∈ read, ¬ job.Fails grammar one.2 := by
  have hzero : ∀ report : Report, report.exitCode = 0 ↔ report.failures = 0 := by
    intro report
    unfold Report.exitCode
    split <;> simp_all
  rw [hzero, failures_report_eq_zero_iff, List.forall_mem_map]
  refine forall₂_congr fun one _ => ?_
  exact job.failures_share_eq_zero_iff one.1 one.2

/-! ### Steps -/

/-- The sources after an input was read, and its file was written if there is a text for it. -/
def Sources.taken (sources : Sources) (input : Input) (written? : Option Text) : Sources :=
  match input, written? with
  | .file path, some text =>
    match sources.store.find path with
    | .ok (place, _) => { sources with store := sources.store.set place (Utf8.encode text) }
    | .error _ => sources
  | _, _ => (input.read sources).2

/-- Without a text to write, only the reading counts, which uses up the standard input. -/
@[simp]
theorem Sources.taken_none : sources.taken input none = (input.read sources).2 := by
  cases input <;> rfl

/-- A text that is read from a file is what the file holds (`FileStore.find`). -/
theorem find_of_read (h : ((Input.file path).read sources).1 = .ok before) :
    ∃ place, sources.store.find path = .ok (place, Utf8.encode before) := by
  simp only [Input.read, FileStore.readText] at h
  cases hfind : sources.store.find path with
  | error error => simp [hfind] at h
  | ok found =>
    obtain ⟨place, content⟩ := found
    cases hdecode : Utf8.decode content with
    | error fault => simp [hfind, hdecode] at h
    | ok text =>
      simp only [hfind, hdecode, Except.ok.injEq] at h
      rw [← h, Utf8.decode_eq_ok_iff.mp hdecode]
      exact ⟨place, rfl⟩

/-- **What is made of a changed text**: `emit` reports the share and writes its text.  A file that
was just read is as it was, so that it can be written. -/
theorem emit_eq (h : (input.read sources).1 = .ok before) (write : Bool) (after : Text)
    (replacements : Nat) :
    let share := Share.ofChange write input before after replacements
    emit write (input.read sources).2 input before after replacements
      = (share.report, sources.taken input share.written?) := by
  intro share
  cases input with
  | standard => rfl
  | file path =>
    by_cases hsame : before = after
    · simp [share, emit, Share.ofChange, hsame]
    cases write with
    | false => simp [share, emit, Share.ofChange, hsame]
    | true =>
      -- The plan finds the text that it was made from, since nothing was written in between.
      obtain ⟨place, hfind⟩ := find_of_read h
      have hwrite : (WritePlan.ofTexts path before after).apply sources.store
          = (.ok (.written after.size), sources.store.set place (Utf8.encode after)) :=
        WritePlan.carryOut_of_accepts hfind hsame (Verification.accepts_ofText before)
      have hread : ((Input.file path).read sources).2 = sources := rfl
      simp only [share, emit, Share.ofChange, hread, hwrite, hfind, hsame, if_false,
        Bool.not_true, Bool.false_eq_true, if_true, Sources.taken]

/-- **A step of a replacement adds the share of its input** (`Job.share`). -/
theorem replaceInput_eq (selector : Selector) (fragment : Fragment) (write : Bool) :
    let share := (Job.replace selector fragment write).share grammar input (input.read sources).1
    replaceInput grammar selector fragment write sources input
      = (share.report, sources.taken input share.written?) := by
  have hemit := @emit_eq sources input
  have htaken := @Sources.taken_none sources input
  -- Reading the input, parsing it and replacing in it can each end the step.
  unfold replaceInput
  generalize input.read sources = read at hemit htaken ⊢
  obtain ⟨_ | text, rest⟩ := read
  · exact congrArg _ htaken.symm
  · dsimp only [Job.share]
    cases selector.replace grammar fragment text with
    | error error => exact congrArg _ htaken.symm
    | ok outcome => exact hemit rfl write outcome.output outcome.replacements

/-- **A step of applying rules adds the share of its input** (`Job.share`). -/
theorem applyInput_eq (rules : List Rule) (write : Bool) :
    let share := (Job.apply rules write).share grammar input (input.read sources).1
    applyInput grammar rules write sources input
      = (share.report, sources.taken input share.written?) := by
  have hemit := @emit_eq sources input
  have htaken := @Sources.taken_none sources input
  unfold applyInput
  generalize input.read sources = read at hemit htaken ⊢
  obtain ⟨_ | text, rest⟩ := read
  · exact congrArg _ htaken.symm
  · dsimp only [Job.share]
    rw [hemit rfl write]

@[simp]
theorem Report.empty_append (report : Report) : ({} : Report) ++ report = report := by
  show Report.mk ([] ++ report.output) ([] ++ report.errors) (0 + report.failures) = report
  rw [Nat.zero_add]
  rfl

/-- A search (`searchInputs`) adds the share of its first input, and goes on with the others. -/
theorem searchInputs_cons {selector : Selector} (listing : Listing) {rest : List Input} :
    let share := (Job.search selector listing).share grammar input (input.read sources).1
    let others := searchInputs grammar selector (input.read sources).2 rest
    searchInputs grammar selector sources (input :: rest)
      = ((share.found ++ others.1.1, share.report ++ others.1.2), others.2) := by
  rw [searchInputs, searchInput]
  generalize input.read sources = read
  obtain ⟨_ | text, middle⟩ := read
  · rfl
  · dsimp only [Job.share]
    cases Tree.parse grammar text with
    | error error => rfl
    | ok tree => simp

/-! ### What a step leaves -/

/-- The inputs do not lead to one file.  An input that leads to none is apart from all, and so is
the standard input. -/
def Apart (store : FileStore) : Input → Input → Prop
  | .file path, .file path' => ∀ place content,
      store.find path = .ok (place, content) → store.find path' ≠ .ok (place, content)
  | _, _ => True

/-- **What a step does to the files.**  It leaves them alone, or writes the file of its input. -/
theorem Sources.taken_cases (sources : Sources) (input : Input) (written? : Option Text) :
    (sources.taken input written?).standard = (input.read sources).2.standard ∧
    ((sources.taken input written?).store = sources.store ∧
      (∀ path found, input = .file path → sources.store.find path = .ok found →
        written? = none) ∨
    ∃ path text place content, input = .file path ∧ written? = some text ∧
      sources.store.find path = .ok (place, content) ∧
      (sources.taken input written?).store = sources.store.set place (Utf8.encode text)) := by
  cases input with
  | standard => exact ⟨rfl, .inl ⟨rfl, fun path found hinput => nomatch hinput⟩⟩
  | file path =>
    cases written? with
    | none => exact ⟨rfl, .inl ⟨rfl, fun _ _ _ _ => rfl⟩⟩
    | some text =>
      cases hfind : sources.store.find path with
      | error error =>
        have htaken : sources.taken (.file path) (some text) = sources := by
          simp only [taken, hfind]
        rw [htaken]
        refine ⟨rfl, .inl ⟨rfl, fun path' found hinput hfound => ?_⟩⟩
        obtain rfl := Input.file.inj hinput
        rw [hfind] at hfound
        cases hfound
      | ok found =>
        have htaken : sources.taken (.file path) (some text)
            = { sources with store := sources.store.set found.1 (Utf8.encode text) } := by
          simp only [taken, hfind]
        rw [htaken]
        exact ⟨rfl, .inr ⟨path, text, found.1, found.2, rfl, rfl, hfind, rfl⟩⟩

/-- A step does not change what a path to another file (`Apart`) gives. -/
theorem Sources.find_taken (written? : Option Text)
    (h : Apart sources.store input (.file path)) :
    (sources.taken input written?).store.find path = sources.store.find path := by
  obtain ⟨-, ⟨hstore, -⟩ | ⟨path', text, place, content, rfl, -, hfind, hstore⟩⟩ :=
    sources.taken_cases input written?
  · rw [hstore]
  · rw [hstore]
    obtain ⟨-, hget⟩ := FileStore.find_eq_ok_iff.mp hfind
    refine (FileStore.Alike.set hget _).find_eq fun other found hother => ?_
    obtain ⟨-, hget'⟩ := FileStore.find_eq_ok_iff.mp hother
    have hne : other ≠ place := by
      rintro rfl
      obtain rfl : found = content := Option.some.inj (hget'.symm.trans hget)
      exact h other found hfind hother
    rw [FileStore.get?_set_of_ne _ _ hne, hget']

/-- What is read from a file depends on what its path gives, and on nothing else. -/
theorem read_file_congr {one other : Sources}
    (h : one.store.find path = other.store.find path) :
    ((Input.file path).read one).1 = ((Input.file path).read other).1 := by
  simp only [Input.read, FileStore.readText, h]

theorem readings_congr {one other : Sources} {inputs : List Input}
    (hstandard : one.standard = other.standard)
    (hfind : ∀ path, .file path ∈ inputs → one.store.find path = other.store.find path) :
    readings one inputs = readings other inputs := by
  induction inputs generalizing one other with
  | nil => rfl
  | cons input rest ih =>
    have hrest : ∀ path, .file path ∈ rest → one.store.find path = other.store.find path :=
      fun path hpath => hfind path (List.mem_cons_of_mem _ hpath)
    cases input with
    | standard =>
      have hread : (Input.standard.read one).1 = (Input.standard.read other).1 := by
        simp only [Input.read, hstandard]
      rw [readings, readings, hread]
      exact congrArg _ (ih rfl hrest)
    | file path =>
      rw [readings, readings, read_file_congr (hfind path List.mem_cons_self)]
      exact congrArg _ (ih hstandard hrest)

theorem map_fst_readings (sources : Sources) (inputs : List Input) :
    (readings sources inputs).map (·.1) = inputs := by
  induction inputs generalizing sources with
  | nil => rfl
  | cons input rest ih => rw [readings, List.map_cons, ih]

/-- What is read from a file (`readings`) is what it holds at the start. -/
theorem eq_of_mem_readings {inputs : List Input} {reading : Except String Text}
    (h : (.file path, reading) ∈ readings sources inputs) :
    reading = ((Input.file path).read sources).1 := by
  induction inputs generalizing sources with
  | nil => cases h
  | cons input rest ih =>
    rw [readings] at h
    rcases List.mem_cons.mp h with hfirst | hrest
    · obtain ⟨rfl, rfl⟩ := Prod.mk.inj hfirst
      rfl
    · rw [ih hrest]
      exact read_file_congr (by cases input <;> rfl)

/-- **The later inputs find their files as they were**, by `Sources.find_taken`. -/
theorem readings_taken {rest : List Input} (written? : Option Text)
    (h : ∀ other ∈ rest, Apart sources.store input other) :
    readings (sources.taken input written?) rest = readings (input.read sources).2 rest := by
  refine readings_congr (sources.taken_cases input written?).1 fun path hpath => ?_
  rw [Sources.find_taken written? (h _ hpath)]
  cases input <;> rfl

/-! ### Runs -/

/-- The files of the inputs hold the texts that there are for their paths (`new?`); everything else
is as it was. -/
structure Rewrites (store : FileStore) (new? : Text → Option Text) (inputs : List Input)
    (after : FileStore) : Prop where
  directories_eq : after.directories = store.directories
  unlisted_eq : after.unlisted = store.unlisted
  home_eq : after.home = store.home
  eq_of_none : (∀ path, .file path ∈ inputs → new? path = none) → after = store
  get?_of_mem : ∀ path place content, .file path ∈ inputs →
    store.find path = .ok (place, content) →
      after.get? place = some ((new? path).elim content Utf8.encode)
  get?_of_notMem : ∀ place, (∀ path content, .file path ∈ inputs →
    store.find path ≠ .ok (place, content)) → after.get? place = store.get? place

namespace Rewrites

variable {store middle after : FileStore} {new? newThere? : Text → Option Text}
  {inputs : List Input}

/-- Where there are no texts, nothing changes. -/
theorem refl (h : ∀ path, .file path ∈ inputs → new? path = none) :
    Rewrites store new? inputs store where
  directories_eq := rfl
  unlisted_eq := rfl
  home_eq := rfl
  eq_of_none := fun _ => rfl
  get?_of_mem := by
    intro path place content hpath hfind
    rw [h path hpath]
    exact (FileStore.find_eq_ok_iff.mp hfind).2
  get?_of_notMem := fun _ _ => rfl

/-- What a step does (`Sources.taken_cases`), as what it makes of the files. -/
theorem taken {written? : Option Text} (h : ∀ path, input = .file path → written? = new? path) :
    Rewrites sources.store new? [input] (sources.taken input written?).store := by
  obtain ⟨-, ⟨hstore, hnone⟩ | ⟨path, text, place, content, rfl, htext, hfind, hstore⟩⟩ :=
    sources.taken_cases input written?
  · -- No file was written, for want of a text or of a file.
    rw [hstore]
    refine ⟨rfl, rfl, rfl, fun _ => rfl, fun path place content hpath hfind => ?_, fun _ _ => rfl⟩
    obtain rfl := List.mem_singleton.mp hpath
    rw [← h path rfl, hnone path _ rfl hfind]
    exact (FileStore.find_eq_ok_iff.mp hfind).2
  · rw [hstore]
    have hnew : new? path = some text := (h path rfl).symm.trans htext
    refine ⟨rfl, rfl, rfl, fun hnone => ?_, fun path' place' content' hpath hfind' => ?_,
      fun other hother => ?_⟩
    · rw [hnone path (List.mem_singleton.mpr rfl)] at hnew
      cases hnew
    · obtain rfl := Input.file.inj (List.mem_singleton.mp hpath)
      rw [hfind] at hfind'
      obtain ⟨rfl, -⟩ := Prod.mk.inj (Except.ok.inj hfind')
      rw [FileStore.get?_set_self, hnew]
      rfl
    · refine FileStore.get?_set_of_ne _ _ ?_
      rintro rfl
      exact hother path content (List.mem_singleton.mpr rfl) hfind

/-- A step and then the others: where the inputs are `Apart`, neither undoes what the other did. -/
theorem cons (h : Rewrites store new? [input] middle) (h' : Rewrites middle newThere? inputs after)
    (hapart : ∀ other ∈ inputs, Apart store input other)
    (hfind : ∀ path, .file path ∈ inputs → middle.find path = store.find path)
    (hnew : ∀ path, .file path ∈ inputs → newThere? path = new? path) :
    Rewrites store new? (input :: inputs) after where
  directories_eq := h'.directories_eq.trans h.directories_eq
  unlisted_eq := h'.unlisted_eq.trans h.unlisted_eq
  home_eq := h'.home_eq.trans h.home_eq
  eq_of_none := by
    intro hnone
    rw [h'.eq_of_none fun path hpath => ?_, h.eq_of_none fun path hpath => ?_]
    · refine hnone path (List.mem_cons.mpr (.inl (List.mem_singleton.mp hpath)))
    · rw [hnew path hpath]
      exact hnone path (List.mem_cons_of_mem _ hpath)
  get?_of_mem := by
    intro path place content hpath hplace
    rcases List.mem_cons.mp hpath with hfirst | hrest
    · -- No later input leads to the file of the first.
      have hothers : ∀ path' content', .file path' ∈ inputs →
          middle.find path' ≠ .ok (place, content') := by
        intro path' content' hpath' hplace'
        rw [hfind path' hpath'] at hplace'
        have hapart' := hapart _ hpath'
        rw [← hfirst] at hapart'
        obtain ⟨-, hget⟩ := FileStore.find_eq_ok_iff.mp hplace
        obtain ⟨-, hget'⟩ := FileStore.find_eq_ok_iff.mp hplace'
        obtain rfl : content' = content := Option.some.inj (hget'.symm.trans hget)
        exact hapart' place content' hplace hplace'
      rw [h'.get?_of_notMem place hothers]
      exact h.get?_of_mem path place content (List.mem_singleton.mpr hfirst) hplace
    · -- The step before has left the path of a later input.
      rw [← hnew path hrest]
      exact h'.get?_of_mem path place content hrest ((hfind path hrest).trans hplace)
  get?_of_notMem := by
    intro place hplace
    have hothers : ∀ path content, .file path ∈ inputs →
        middle.find path ≠ .ok (place, content) := by
      intro path content hpath
      rw [hfind path hpath]
      exact hplace path content (List.mem_cons_of_mem _ hpath)
    rw [h'.get?_of_notMem place hothers]
    refine h.get?_of_notMem place fun path content hpath => hplace path content ?_
    exact List.mem_cons.mpr (.inl (List.mem_singleton.mp hpath))

end Rewrites

/-- Where paths give the same, inputs that were apart still are. -/
theorem Apart.congr {one other : FileStore} {first second : Input}
    (hfirst : ∀ path, first = .file path → one.find path = other.find path)
    (hsecond : ∀ path, second = .file path → one.find path = other.find path)
    (h : Apart other first second) : Apart one first second := by
  cases first with
  | standard => trivial
  | file path =>
    cases second with
    | standard => trivial
    | file path' =>
      intro place content hfind
      rw [hsecond path' rfl]
      exact h place content ((hfirst path rfl).symm.trans hfind)

/-- **A run adds up the shares of its inputs**, each as if it were the only one. -/
theorem forInputs_spec {step : Sources → Input → Report × Sources}
    {share : Input → Except String Text → Share}
    (hstep : ∀ sources input, step sources input = ((share input (input.read sources).1).report,
      sources.taken input (share input (input.read sources).1).written?))
    (sources : Sources) {inputs : List Input} (hapart : inputs.Pairwise (Apart sources.store)) :
    (forInputs step sources inputs).1 = ((readings sources inputs).map fun one =>
      share one.1 one.2).foldr (fun share total => share.report ++ total) {} ∧
    Rewrites sources.store
      (fun path => (share (.file path) ((Input.file path).read sources).1).written?) inputs
      (forInputs step sources inputs).2.store := by
  induction inputs generalizing sources with
  | nil => exact ⟨rfl, .refl nofun⟩
  | cons input rest ih =>
    obtain ⟨hfirst, hrest⟩ := List.pairwise_cons.mp hapart
    let written? := (share input (input.read sources).1).written?
    -- The step keeps the paths of the later inputs, so the induction goes on with `rest` and with
    -- the files that the step leaves.
    have hfind : ∀ path, .file path ∈ rest →
        (sources.taken input written?).store.find path = sources.store.find path :=
      fun path hpath => Sources.find_taken written? (hfirst _ hpath)
    have hnext : rest.Pairwise (Apart (sources.taken input written?).store) := by
      refine hrest.imp_of_mem fun {one other} hone hother => Apart.congr ?_ ?_
      · rintro path rfl
        exact hfind path hone
      · rintro path rfl
        exact hfind path hother
    obtain ⟨hreport, hstore⟩ := ih (sources.taken input written?) hnext
    rw [forInputs, hstep]
    constructor
    · dsimp only
      rw [hreport, readings_taken written? hfirst]
      rfl
    · refine .cons (.taken ?_) hstore hfirst hfind ?_
      · rintro path rfl
        rfl
      · intro path hpath
        rw [read_file_congr (hfind path hpath)]

/-- A search writes nothing, so its inputs need not be apart. -/
theorem searchInputs_spec (grammar : Grammar) (selector : Selector) (listing : Listing)
    (sources : Sources) (inputs : List Input) :
    let shares := (readings sources inputs).map fun one =>
      (Job.search selector listing).share grammar one.1 one.2
    (searchInputs grammar selector sources inputs).1
      = (shares.flatMap (·.found), shares.foldr (fun share total => share.report ++ total) {}) ∧
    (searchInputs grammar selector sources inputs).2.store = sources.store := by
  induction inputs generalizing sources with
  | nil => exact ⟨rfl, rfl⟩
  | cons input rest ih =>
    have hread : (input.read sources).2.store = sources.store := by cases input <;> rfl
    obtain ⟨hresult, hstore⟩ := ih (input.read sources).2
    rw [searchInputs_cons listing]
    exact ⟨by simp only [hresult]; rfl, hstore.trans hread⟩

/-- **What a job does for inputs that are apart**, by `forInputs_spec` and `searchInputs_spec`. -/
theorem Job.run_spec (grammar : Grammar) (sources : Sources) (job : Job) {inputs : List Input}
    (hapart : inputs.Pairwise (Apart sources.store)) :
    (job.run grammar sources inputs).1
      = job.report ((readings sources inputs).map fun one => job.share grammar one.1 one.2) ∧
    Rewrites sources.store (job.written? grammar sources) inputs
      (job.run grammar sources inputs).2.store := by
  cases job with
  | search selector listing =>
    obtain ⟨hresult, hstore⟩ := searchInputs_spec grammar selector listing sources inputs
    constructor
    · show Report.ofOutput (listing.render (searchInputs grammar selector sources inputs).1.1)
        ++ (searchInputs grammar selector sources inputs).1.2 = _
      rw [hresult]
      rfl
    · show Rewrites _ _ _ (searchInputs grammar selector sources inputs).2.store
      rw [hstore]
      refine .refl fun path _ => written?_share_eq_none ?_ _ _
      rfl
  | replace selector fragment write =>
    exact forInputs_spec (fun _ _ => replaceInput_eq selector fragment write) sources hapart
  | apply rules write =>
    exact forInputs_spec (fun _ _ => applyInput_eq rules write) sources hapart

end SyntaxGraft.Command
