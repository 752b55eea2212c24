import SyntaxGraft.Proofs.Command.Collection
import SyntaxGraft.Proofs.Command.Shares
import SyntaxGraft.Proofs.Parse.Conversion
import SyntaxGraft.Proofs.Selector.Cache
/-!
# Every input on its own

A request is over at once if its mode, its selector, its replacement, its rule file or one of its
directories is at fault; else it comes down to a job for the inputs that were collected
(`Request.run_cases`).  The job treats each of them on its own (`Job.run_spec`), so that in the end
the files of the inputs hold what became of their texts, and all others what they held
(`Rewrites.get?_of_text`, `Rewrites.get?_of_not_rewritten`).
-/

namespace SyntaxGraft.Command

variable {grammar : Grammar} {store : FileStore} {request : Request} {job : Job}

/-! ### Requests and jobs -/

namespace Request

/-- The paths of the inputs, a `version` or a `help` having none. -/
def operands : Request → List Text
  | .version => []
  | .help => []
  | .search _ _ _ paths => paths
  | .replace _ _ _ _ paths => paths
  | .apply _ _ paths => paths

/-- The request lets files be written. -/
def writes : Request → Bool
  | .replace _ _ _ write _ => write
  | .apply _ write _ => write
  | _ => false

/-- What the request makes of a text: what `SyntaxGraft.replace` gives, or what is left after the
rules, of which those that fail are skipped. -/
def rewritten? (grammar : Grammar) (store : FileStore) : Request → Text → Option Text
  | .replace selector replacement mode _ _, text =>
    let result := (withMode (some mode) {} fun mode =>
      SyntaxGraft.replace grammar mode {} selector replacement text).1
    result.toOption.map (·.output)
  | .apply rules _ _, text =>
    (RuleFile.load store rules).toOption.map fun file =>
      (applyRules grammar {} text file.rules).1.output
  | _, _ => none

/-- The mode, the selector, the replacement or the rule file is at fault, or the walk of a
directory fails. -/
def Fatal (grammar : Grammar) (store : FileStore) (request : Request) : Prop :=
  (match request with
    | .search selector mode _ _ =>
      Mode.ofName? mode = none ∨ ∃ error, Selector.compile selector = .error error
    | .replace selector replacement mode _ _ =>
      Mode.ofName? mode = none ∨ (∃ error, Selector.compile selector = .error error) ∨
        ∃ error, Fragment.parse grammar replacement = .error error
    | .apply rules _ _ => ∃ error, RuleFile.load store rules = .error error
    | _ => False) ∨
  ∃ path ∈ request.operands, WalkFails store path

/-- The job that a request comes down to, with its selector, its fragment or its rules ready
(`Job`). -/
inductive Prepared (grammar : Grammar) (store : FileStore) : Request → Job → Prop where
  | search {text mode : Text} {selector : Selector} (listing : Listing) (paths : List Text)
      (hmode : Mode.ofName? mode = some .selector)
      (hselector : Selector.compile text = .ok selector) :
      Prepared grammar store (.search text mode listing paths) (.search selector listing)
  | replace {text replacement mode : Text} {selector : Selector} {fragment : Fragment}
      (write : Bool) (paths : List Text) (hmode : Mode.ofName? mode = some .selector)
      (hselector : Selector.compile text = .ok selector)
      (hfragment : Fragment.parse grammar replacement = .ok fragment) :
      Prepared grammar store (.replace text replacement mode write paths)
        (.replace selector fragment write)
  | apply {rules : Text} {file : RuleFile} (write : Bool) (paths : List Text)
      (hfile : RuleFile.load store rules = .ok file) :
      Prepared grammar store (.apply rules write paths) (.apply file.rules write)

/-- A request comes down to a job (`Prepared`), or what it asks for is at fault, which ends it at
once. -/
theorem exists_prepared_or_fault (grammar : Grammar) (sources : Sources)
    (hcommand : request ≠ .version ∧ request ≠ .help) :
    (∃ job, request.Prepared grammar sources.store job) ∨
      request.Fatal grammar sources.store ∧
        ∃ message, request.run grammar sources = (.ofFault message, sources) := by
  cases request with
  | version => exact absurd rfl hcommand.1
  | help => exact absurd rfl hcommand.2
  | search text mode listing paths =>
    dsimp only [Fatal, run, runSearch]
    cases hmode : Mode.ofName? mode with
    | none => exact .inr ⟨.inl (.inl rfl), _, rfl⟩
    | some kind =>
      cases hselector : Selector.compile text with
      | error error => exact .inr ⟨.inl (.inr ⟨error, rfl⟩), _, rfl⟩
      | ok selector => exact .inl ⟨_, .search listing paths hmode hselector⟩
  | replace text replacement mode write paths =>
    dsimp only [Fatal, run, runReplace]
    cases hmode : Mode.ofName? mode with
    | none => exact .inr ⟨.inl (.inl rfl), _, rfl⟩
    | some kind =>
      cases hselector : Selector.compile text with
      | error error => exact .inr ⟨.inl (.inr (.inl ⟨error, rfl⟩)), _, rfl⟩
      | ok selector =>
        cases hfragment : Fragment.parse grammar replacement with
        | error error => exact .inr ⟨.inl (.inr (.inr ⟨error, rfl⟩)), _, rfl⟩
        | ok fragment => exact .inl ⟨_, .replace write paths hmode hselector hfragment⟩
  | apply rules write paths =>
    dsimp only [Fatal, run, runApply]
    cases hfile : RuleFile.load sources.store rules with
    | error error => exact .inr ⟨.inl ⟨error, rfl⟩, _, rfl⟩
    | ok file => exact .inl ⟨_, .apply write paths hfile⟩

/-- Once a job is ready (`Request.Prepared`), only the walks can still fail. -/
theorem Prepared.fatal_iff (h : request.Prepared grammar store job) :
    request.Fatal grammar store ↔ ∃ path ∈ request.operands, WalkFails store path := by
  refine or_iff_right ?_
  cases h with
  | search listing paths hmode hselector => simp [hmode, hselector]
  | replace write paths hmode hselector hfragment => simp [hmode, hselector, hfragment]
  | apply write paths hfile => simp [hfile]

/-- Once a job is ready, it is done for the inputs that `collect` gives, if it gives any. -/
theorem Prepared.run_eq {sources : Sources} (h : request.Prepared grammar sources.store job) :
    request.run grammar sources =
      match collect sources.store request.operands with
      | .error error => (.ofFault (withCause error.message error.cause), sources)
      | .ok inputs => job.run grammar sources inputs := by
  cases h with
  | search listing paths hmode hselector =>
    simp only [run, runSearch, hmode, hselector]
    rfl
  | replace write paths hmode hselector hfragment =>
    simp only [run, runReplace, hmode, hselector, hfragment]
    rfl
  | apply write paths hfile =>
    simp only [run, runApply, hfile]
    rfl

/-- **What a run comes down to.**  A fault in what is asked for or in the walk of a directory ends
it at once; else it is the run of a job for the inputs that were collected. -/
theorem run_cases (grammar : Grammar) (sources : Sources)
    (hcommand : request ≠ .version ∧ request ≠ .help) :
    (request.Fatal grammar sources.store ∧
      ∃ message, request.run grammar sources = (.ofFault message, sources)) ∨
    (¬ request.Fatal grammar sources.store ∧
      ∃ job inputs, request.Prepared grammar sources.store job ∧
        collect sources.store request.operands = .ok inputs ∧
        request.run grammar sources = job.run grammar sources inputs) := by
  rcases exists_prepared_or_fault grammar sources hcommand with ⟨job, hjob⟩ | hfault
  · rw [hjob.fatal_iff, hjob.run_eq, ← exists_collect_eq_error_iff]
    cases hcollect : collect sources.store request.operands with
    | error error => exact .inl ⟨⟨error, rfl⟩, _, rfl⟩
    | ok inputs => exact .inr ⟨(fun ⟨_, herror⟩ => nomatch herror), job, inputs, hjob, rfl, rfl⟩
  · exact .inl hfault

theorem Prepared.writes_eq (h : request.Prepared grammar store job) :
    request.writes = job.writes := by
  cases h <;> rfl

/-- What is replaced in an input (`Job.rewritten?`) is what is replaced in a text. -/
theorem Prepared.rewritten?_eq (h : request.Prepared grammar store job) (text : Text) :
    request.rewritten? grammar store text = job.rewritten? grammar text := by
  cases h with
  | search => rfl
  | @replace sought _ _ selector fragment write paths hmode hselector hfragment =>
    -- `rewritten?` compiles through a cache; the job has its selector.
    have hcompile := SelectorCache.Reached.empty.map_selector_compile sought
    rw [hselector] at hcompile
    simp only [rewritten?, Job.rewritten?, withMode, hmode, SyntaxGraft.replace, Mode.compile]
    generalize SelectorCache.compile {} sought = compiled at hcompile ⊢
    obtain ⟨_ | compiled, cache⟩ := compiled
    · cases hcompile
    · have heq : compiled.selector = selector := Except.ok.inj hcompile
      simp only [heq, hfragment]
      cases selector.replace grammar fragment text <;> rfl
  | apply write paths hfile =>
    simp only [rewritten?, hfile]
    rfl

end Request

/-! ### Files apart -/

/-- The inputs of one path are apart: the ways of a walk differ, and each leads to its own file. -/
theorem Contributes.pairwise_apart {path : Text} {inputs : List Input}
    (h : Contributes store path inputs) : inputs.Pairwise (Apart store) := by
  cases h with
  | standard => exact List.pairwise_singleton _ _
  | file => exact List.pairwise_singleton _ _
  | @directory _ place ways hpath hplace hmem horder hlocate =>
    rw [List.pairwise_map]
    refine horder.imp_of_mem fun {one other} hone hother hbefore => ?_
    -- If both led to `target`, both would be the way from the directory to it.
    intro target content hfind hfind'
    obtain ⟨hlocate₁, -⟩ := FileStore.find_eq_ok_iff.mp hfind
    obtain ⟨hlocate₂, -⟩ := FileStore.find_eq_ok_iff.mp hfind'
    rw [hlocate one hone] at hlocate₁
    rw [hlocate other hother, ← hlocate₁] at hlocate₂
    have heq : place ++ other = place ++ one := Except.ok.inj hlocate₂
    exact hbefore.ne (List.append_cancel_left heq).symm

/-! ### The files after a run -/

section

variable {sources : Sources} {inputs : List Input} {after : FileStore} {path : Text} {place : Place}

/-- The text of a file becomes what the job makes of it (`Job.rewritten?`), or else stays. -/
theorem Rewrites.get?_of_text (hwrites : job.writes = true)
    (h : Rewrites sources.store (job.written? grammar sources) inputs after)
    (hpath : .file path ∈ inputs) {text : Text}
    (hfind : sources.store.find path = .ok (place, Utf8.encode text)) :
    after.get? place = some (Utf8.encode ((job.rewritten? grammar text).getD text)) := by
  have hread : ((Input.file path).read sources).1 = .ok text := by
    simp only [Input.read, FileStore.readText, hfind, Utf8.decode_encode]
  rw [h.get?_of_mem path place _ hpath hfind, Job.written?, hread,
    ← Job.getD_written?_share hwrites path text]
  cases (job.share grammar (.file path) (.ok text)).written? <;> rfl

/-- A file whose content is no text (`Utf8.decode` fails) stays. -/
theorem Rewrites.get?_of_notText {content : ByteArray} {fault : Utf8.Fault}
    (h : Rewrites sources.store (job.written? grammar sources) inputs after)
    (hpath : .file path ∈ inputs) (hfind : sources.store.find path = .ok (place, content))
    (hdecode : Utf8.decode content = .error fault) : after.get? place = some content := by
  rw [h.get?_of_mem path place content hpath hfind]
  simp only [Job.written?, Input.read, FileStore.readText, hfind, hdecode]
  rfl

/-- A file that no input leads to, or that nothing is made of, stays. -/
theorem Rewrites.get?_of_not_rewritten (hwrites : job.writes = true)
    (h : Rewrites sources.store (job.written? grammar sources) inputs after)
    (hplace : ∀ path text newText, .file path ∈ inputs →
      sources.store.find path = .ok (place, Utf8.encode text) →
        job.rewritten? grammar text ≠ some newText) :
    after.get? place = sources.store.get? place := by
  by_cases hinput : ∃ path content, .file path ∈ inputs ∧
      sources.store.find path = .ok (place, content)
  · -- The file of an input: it holds no text, or a text of which nothing is made.
    obtain ⟨path, content, hpath, hfind⟩ := hinput
    obtain ⟨-, hget⟩ := FileStore.find_eq_ok_iff.mp hfind
    rw [hget]
    cases hdecode : Utf8.decode content with
    | error fault => exact h.get?_of_notText hpath hfind hdecode
    | ok text =>
      obtain rfl := Utf8.decode_eq_ok_iff.mp hdecode
      have hnone : job.rewritten? grammar text = none :=
        Option.eq_none_iff_forall_ne_some.mpr fun newText => hplace path text newText hpath hfind
      rw [h.get?_of_text hwrites hpath hfind, hnone, Option.getD_none]
  · refine h.get?_of_notMem place fun path content hpath hfind => ?_
    exact hinput ⟨path, content, hpath, hfind⟩

end

/-! ### Every input on its own -/

/-- **Inputs are treated one by one, each on its own.**  Of a search, a replacement or an
application of rules in a tree of files, whose inputs lead to different files:

* if the mode, the selector, the replacement or the rule file is at fault, or the walk of a
  directory fails, nothing is written or printed but the fault;
* else the inputs are those that the paths contribute, a directory the JavaScript files below it in
  the order of a walk.  The report is put together from the shares of the inputs, each of which is
  made from what is read from that input, from a file what it holds at the start;
* the exit code is 0 if none of the inputs fails, and no rule on any of them, and else 1;
* without leave to write nothing changes.  With it, each file of an input that is a text of which
  something is made holds exactly that, and all other files, and the directories, are as they
  were. -/
theorem Request.run_isolated (grammar : Grammar) (sources : Sources) (request : Request)
    (hcommand : request ≠ .version ∧ request ≠ .help) (htree : sources.store.IsTree)
    (hapart : ∀ inputs, collect sources.store request.operands = .ok inputs →
      inputs.Pairwise (Apart sources.store)) :
    let store := sources.store
    let report := (request.run grammar sources).1
    let after := (request.run grammar sources).2.store
    (request.Fatal grammar store →
      after = store ∧ report.output = [] ∧ report.errors ≠ [] ∧ report.exitCode = 1) ∧
    (¬ request.Fatal grammar store →
      ∃ job parts, request.Prepared grammar store job ∧
        List.Forall₂ (Contributes store) request.operands parts ∧
        let inputs := parts.flatten
        let read := readings sources inputs
        collect store request.operands = .ok inputs ∧
        read.map (·.1) = inputs ∧
        (∀ path reading, (.file path, reading) ∈ read →
          reading = ((Input.file path).read sources).1) ∧
        report = job.report (read.map fun one => job.share grammar one.1 one.2) ∧
        (report.exitCode = 0 ↔ ∀ one ∈ read, ¬ job.Fails grammar one.2) ∧
        (report.exitCode = 0 ∨ report.exitCode = 1) ∧
        (request.writes = false → after = store) ∧
        (request.writes = true →
          after.directories = store.directories ∧ after.unlisted = store.unlisted ∧
          after.home = store.home ∧
          (∀ path place text newText, .file path ∈ inputs →
            store.find path = .ok (place, Utf8.encode text) →
            request.rewritten? grammar store text = some newText →
              after.get? place = some (Utf8.encode newText)) ∧
          ∀ place, (∀ path text newText, .file path ∈ inputs →
            store.find path = .ok (place, Utf8.encode text) →
              request.rewritten? grammar store text ≠ some newText) →
            after.get? place = store.get? place)) := by
  intro store report after
  rcases run_cases grammar sources hcommand with
    ⟨hfatal, message, hrun⟩ | ⟨hsound, job, inputs, hjob, hinputs, hrun⟩
  · -- The run was over at once.
    refine ⟨fun _ => ?_, fun hsound => absurd hfatal hsound⟩
    simp only [report, after, hrun]
    have herrors : (Report.ofFault message).errors ≠ [] := by simp [Report.ofFault]
    exact ⟨rfl, rfl, herrors, rfl⟩
  · -- The run is that of a job: `Job.run_spec` says what it reports and what it writes.
    refine ⟨fun hfatal => absurd hfatal hsound, fun _ => ?_⟩
    obtain ⟨parts, hparts, rfl⟩ := collect_eq_ok_iff.mp hinputs
    have hcontributes : List.Forall₂ (Contributes store) request.operands parts :=
      hparts.imp fun path part => contributes_of_inputsOf htree
    obtain ⟨hreport, hrewrites⟩ := job.run_spec grammar sources (hapart _ hinputs)
    rw [← hrun] at hreport hrewrites
    refine ⟨job, parts, hjob, hcontributes, hinputs, map_fst_readings _ _,
      fun path reading => eq_of_mem_readings, hreport, ?_, ?_, ?_, ?_⟩
    · rw [show report = _ from hreport]
      exact job.exitCode_report_eq_zero_iff _
    · unfold Report.exitCode
      split
      · exact .inl rfl
      · exact .inr rfl
    · intro hwrites
      rw [hjob.writes_eq] at hwrites
      exact hrewrites.eq_of_none fun path _ => Job.written?_share_eq_none hwrites _ _
    · intro hwrites
      rw [hjob.writes_eq] at hwrites
      refine ⟨hrewrites.directories_eq, hrewrites.unlisted_eq, hrewrites.home_eq, ?_, ?_⟩
      · intro path place text newText hpath hfind hnew
        rw [hjob.rewritten?_eq] at hnew
        rw [hrewrites.get?_of_text hwrites hpath hfind, hnew, Option.getD_some]
      · intro place hplace
        refine hrewrites.get?_of_not_rewritten hwrites fun path text newText hpath hfind => ?_
        rw [← hjob.rewritten?_eq]
        exact hplace path text newText hpath hfind

/-- Two JavaScript files stand beside a file of notes; the text of one of them cannot be parsed. -/
theorem Request.run_isolated_beside_failing :
    let store : FileStore := { files := [
      (["bad.js".toList], Utf8.encode ['?']),
      (["good.js".toList], Utf8.encode Sample.product),
      (["notes.txt".toList], Utf8.encode Sample.product)] }
    let request : Request := .replace Sample.calls Sample.sum "selector".toList true [['.']]
    let result := request.run Sample.grammar { store }
    store.IsTree ∧ ¬ request.Fatal Sample.grammar store ∧
      result.2.store.get? ["good.js".toList] = some (Utf8.encode "a * (c + d)".toList) ∧
      result.2.store.get? ["bad.js".toList] = some (Utf8.encode ['?']) ∧
      result.2.store.get? ["notes.txt".toList] = some (Utf8.encode Sample.product) ∧
      result.1.exitCode = 1 := by
  intro store request result
  have htree : store.IsTree := ⟨by decide, by decide, by decide, by decide⟩
  have hfatal : ¬ request.Fatal Sample.grammar store := by
    rintro ((hmode | ⟨error, herror⟩ | ⟨error, herror⟩) | ⟨path, -, -, place, way, -, hunlisted, -⟩)
    · cases hmode
    · cases herror
    · cases herror
    · cases hunlisted
  have hcollect : ∀ inputs, collect store request.operands = .ok inputs →
      Contributes store ['.'] inputs := by
    intro inputs hinputs
    obtain ⟨parts, hparts, rfl⟩ := collect_eq_ok_iff.mp hinputs
    obtain _ | ⟨hpart, _ | _⟩ := hparts
    rw [List.flatten_singleton]
    exact contributes_of_inputsOf htree hpart
  obtain ⟨job, parts, hjob, hparts, hinputs, hfst, hread, hreport, hzero, hone, -, hwrites⟩ :=
    (Request.run_isolated Sample.grammar { store } request ⟨nofun, nofun⟩ htree
      fun inputs hinputs => (hcollect inputs hinputs).pairwise_apart).2 hfatal
  obtain ⟨-, -, -, hwritten, hkept⟩ := hwrites rfl
  have hcontributes := hcollect _ hinputs
  generalize parts.flatten = inputs at hinputs hcontributes hfst hread hzero hwritten hkept
  have hplace : store.directory? ['.'] = some [] := rfl
  generalize hdot : ['.'] = path at hcontributes
  cases hcontributes with
  | standard => exact absurd hdot (by decide)
  | file _ hnone =>
    rw [← hdot, hplace] at hnone
    cases hnone
  | @directory _ place ways _ hsome hmem _ hlocate =>
    subst hdot
    obtain rfl : [] = place := Option.some.inj (hplace.symm.trans hsome)
    have hgood : ["good.js".toList] ∈ ways :=
      (hmem _).mpr ⟨rfl, [], "good".toList, "js".toList, rfl, by decide, by decide⟩
    have hbad : ["bad.js".toList] ∈ ways :=
      (hmem _).mpr ⟨rfl, [], "bad".toList, "js".toList, rfl, by decide, by decide⟩
    have hnotes : ["notes.txt".toList] ∉ ways := by
      rw [hmem, List.nil_append, ← isSource_iff]
      decide
    refine ⟨htree, hfatal, ?_, ?_, ?_, hone.resolve_left fun hexit => ?_⟩
    · exact hwritten "./good.js".toList _ Sample.product _ (List.mem_map_of_mem hgood) rfl rfl
    · -- The text `?` is not parsed, so nothing is made of it.
      refine hkept _ fun path text newText _ hfind hnew => ?_
      have hbytes : Utf8.encode ['?'] = Utf8.encode text :=
        Option.some.inj (FileStore.find_eq_ok_iff.mp hfind).2
      obtain rfl := Utf8.encode_injective hbytes
      cases hnew
    · -- The notes are no input.
      refine hkept _ fun path text newText hpath hfind _ => ?_
      obtain ⟨way, hway, hfile⟩ := List.mem_map.mp hpath
      obtain rfl := Input.file.inj hfile
      obtain ⟨hinside, -⟩ := FileStore.find_eq_ok_iff.mp hfind
      rw [hlocate way hway] at hinside
      obtain rfl : way = ["notes.txt".toList] := Except.ok.inj hinside
      exact hnotes hway
    · -- The file that is not parsed is an input that fails, so the exit code is not 0.
      have hbadInput : Input.file "./bad.js".toList ∈ ways.map fun way => .file (join ['.'] way) :=
        List.mem_map_of_mem hbad
      rw [← hfst] at hbadInput
      obtain ⟨⟨input, reading⟩, hone, rfl⟩ := List.mem_map.mp hbadInput
      refine hzero.mp hexit _ hone ?_
      rw [hread _ _ hone]
      change Request.Prepared _ _ (.replace _ _ _ _ _) job at hjob
      cases hjob
      exact ⟨_, rfl⟩

end SyntaxGraft.Command
