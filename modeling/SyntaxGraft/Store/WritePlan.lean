import SyntaxGraft.Store.FileStore
import SyntaxGraft.Store.Verification
/-!
# Writing a file only if it is as it was

A plan to write a file keeps what is needed to recognise the text that the new text was made from.
When it is carried out, the file is read again: if it already holds the new text nothing is done,
and if it holds any other text than the plan was made from it is left alone.

Carrying out a plan is one step, from the files before it to the files after it.  A real system
takes some time between reading the file and putting the new one in its place, and nothing is locked
meanwhile; what somebody else does to the file in that window is not modelled.

`carryOut_of_ne_written`: a plan that does not write leaves the store as it was.
-/

namespace SyntaxGraft

/-- A plan to write a file. -/
structure WritePlan where
  file : Text
  newText : Text
  /-- What is kept of the text that the new one was made from. -/
  expected : Verification

/-- Why a plan was not carried out. -/
inductive WriteError where
  | store (error : StoreError)
  /-- The content of the file is no text. -/
  | notText (file : Text) (fault : Utf8.Fault)
  /-- The file holds another text than the plan was made from; the hashes of both. -/
  | changed (file : Text) (expected found : UInt64)

/-- The error in words. -/
def WriteError.message : WriteError → String
  | .store error =>
    let reason := error.message
    s!"File I/O error: {reason}"
  | .notText file fault =>
    let file := String.ofList file
    let reason := fault.message
    s!"UTF-8 validation error in {file}: {reason}"
  | .changed file expected found =>
    let file := String.ofList file
    let expected := Xxh3.hex expected
    let found := Xxh3.hex found
    s!"{file} changed since it was read (expected hash {expected}, found {found})"

/-- The error that this one comes from, in words. -/
def WriteError.cause? : WriteError → Option String
  | .store error => some error.message
  | .notText _ fault => some fault.message
  | .changed _ _ _ => none

/-- What became of a plan that did not fail. -/
inductive WriteOutcome where
  /-- The new text was written, so many bytes. -/
  | written (bytes : Nat)
  /-- The file holds the new text already. -/
  | unchanged

namespace WritePlan

/-- The plan to write a file whose new text was made from a text. -/
def ofTexts (file before newText : Text) : WritePlan :=
  ⟨file, newText, .ofText before⟩

/-- The new text differs from a text. -/
def changes (plan : WritePlan) (current : Text) : Bool :=
  current != plan.newText

/-- What has to be done to a file with this content. -/
def decision (plan : WritePlan) (content : ByteArray) : Except WriteError WriteOutcome :=
  match Utf8.decode content with
  | .error fault => .error (.notText plan.file fault)
  | .ok current =>
    if !plan.changes current then .ok .unchanged
    else if !plan.expected.accepts current then
      .error (.changed plan.file plan.expected.hash current.hash)
    else .ok (.written plan.newText.size)

/-- The plan carried out, from reading the file to replacing it, as one step: between the two
nothing else happens to `store`.  The file is replaced as a whole, or it stays as it was and
`refusal` is what the system says. -/
def carryOut (plan : WritePlan) (refusal : Option WriteError) (store : FileStore) :
    Except WriteError WriteOutcome × FileStore :=
  match store.find plan.file with
  | .error error => (.error (.store error), store)
  | .ok (place, content) =>
    match plan.decision content with
    | .ok (.written bytes) =>
      match refusal with
      | some error => (.error error, store)
      | none => (.ok (.written bytes), store.set place (Utf8.encode plan.newText))
    | other => (other, store)

/-- The plan carried out where files can be written. -/
def apply (plan : WritePlan) (store : FileStore) : Except WriteError WriteOutcome × FileStore :=
  plan.carryOut none store

/-- A plan that does not write leaves the store as it was. -/
theorem carryOut_of_ne_written {plan : WritePlan} {refusal : Option WriteError} {store : FileStore}
    (h : ∀ bytes, (plan.carryOut refusal store).1 ≠ .ok (.written bytes)) :
    (plan.carryOut refusal store).2 = store := by
  unfold carryOut at h ⊢
  split
  · rfl
  · split
    · cases refusal with
      | some error => rfl
      | none => simp_all
    · rfl

end WritePlan

end SyntaxGraft
