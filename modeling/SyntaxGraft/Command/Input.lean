import SyntaxGraft.Store.FileStore
/-!
# Inputs of a command

A path stands for a file, for the standard input if it is `-`, or for the JavaScript files below a
directory, in the order of their names.  A directory that cannot be listed stands for nothing: no
input at all is then taken.
-/

namespace SyntaxGraft.Command

/-- Where a text comes from. -/
inductive Input where
  | standard
  | file (path : Text)
deriving DecidableEq

/-- What an input is called. -/
def Input.label : Input → Text
  | .standard => "<stdin>".toList
  | .file path => path

/-! ### Collecting inputs -/

/-- The endings of the names of JavaScript files. -/
def extensions : List Text := ["js".toList, "mjs".toList, "cjs".toList, "jsx".toList]

/-- The ending of a name: what follows its last dot, unless nothing stands before that. -/
def extension? (name : Text) : Option Text :=
  let ending := (name.reverse.takeWhile (· ≠ '.')).reverse
  if ending.length + 1 < name.length then some ending else none

/-- The file has the name of a JavaScript file. -/
def isSource (place : Place) : Bool :=
  ((place.getLast?.bind extension?).map extensions.contains).getD false

/-- The path that leads on from a directory. -/
def join (base : Text) (place : Place) : Text :=
  place.foldl (fun path name =>
    if path.getLast? = some '/' then path ++ name else path ++ '/' :: name) base

/-- A directory that cannot be listed. -/
structure WalkError where
  path : Text

/-- What the system says of it. -/
def WalkError.cause (_ : WalkError) : String :=
  "Permission denied (os error 13)"

/-- The error in words. -/
def WalkError.message (error : WalkError) : String :=
  let shown := String.ofList error.path
  let reason := error.cause
  s!"IO error for operation on {shown}: {reason}"

/-- The inputs that a path stands for. -/
def inputsOf (store : FileStore) (path : Text) : Except WalkError (List Input) :=
  if path = ['-'] then .ok [.standard]
  else
    match store.directory? path with
    | none => .ok [.file path]
    | some place =>
      match store.obstacle? place with
      | some way => .error ⟨join path way⟩
      | none => .ok (((store.below place).filter isSource).map fun way => .file (join path way))

/-- The inputs that paths stand for, in order. -/
def collect (store : FileStore) : List Text → Except WalkError (List Input)
  | [] => .ok []
  | path :: rest =>
    match inputsOf store path with
    | .error error => .error error
    | .ok inputs =>
      match collect store rest with
      | .error error => .error error
      | .ok others => .ok (inputs ++ others)

/-! ### Reading inputs -/

/-- The files, and what is left of the standard input. -/
structure Sources where
  store : FileStore
  standard : ByteArray := .empty

/-- The text of an input, or why there is none.  The standard input can be read once, after which
it is empty. -/
def Input.read (sources : Sources) : Input → Except String Text × Sources
  | .standard =>
    let result := match Utf8.decode sources.standard with
      | .ok text => .ok text
      | .error _ =>
        let reason := StoreError.notText.message
        .error s!"failed to read stdin: {reason}"
    (result, { sources with standard := .empty })
  | .file path =>
    let result := match sources.store.readText path with
      | .ok text => .ok text
      | .error error =>
        let shown := String.ofList path
        let reason := error.message
        .error s!"failed to read {shown}: {reason}"
    (result, sources)

end SyntaxGraft.Command
