import SyntaxGraft.Regex.Reader
/-!
# Regex literals

A regex literal is a body between slashes with flags after it.  In the body a backslash takes the
next character with it, so a slash can stand there as `\/`; `splitBody?` finds the slash that ends
the body, and `unescapeSlashes` gives the pattern that the body means.
-/

namespace SyntaxGraft.Regex

/-- The body up to the first slash that no backslash takes, and the text after that slash. -/
def splitBody? : Text → Option (Text × Text)
  | [] => none
  | '/' :: rest => some ([], rest)
  | '\\' :: c :: rest => (splitBody? rest).map fun (body, after) => ('\\' :: c :: body, after)
  | c :: rest => (splitBody? rest).map fun (body, after) => (c :: body, after)

/-- The body with every escaped slash as a plain one; no other escape changes. -/
def unescapeSlashes : Text → Text
  | [] => []
  | '\\' :: '/' :: rest => '/' :: unescapeSlashes rest
  | '\\' :: c :: rest => '\\' :: c :: unescapeSlashes rest
  | c :: rest => c :: unescapeSlashes rest

/-- Why a literal is no regex. -/
inductive Refusal where
  /-- A flag that means nothing here. -/
  | flag (letter : Char)
  /-- A body that is no pattern. -/
  | pattern

/-- The reason in words, where there are words for it. -/
def Refusal.reason? : Refusal → Option String
  | .flag letter => some s!"unsupported flag '{letter}'"
  | .pattern => none

/-- The flags that change how a whole search goes on and nothing about a single match. -/
def idleFlags : List Char := ['g', 'y', 'u', 'd']

/-- The flags of a literal, read from the left. -/
def readFlags (flags : Flags) : Text → Except Refusal Flags
  | [] => .ok flags
  | 'i' :: rest => readFlags { flags with ignoreCase := true } rest
  | 'm' :: rest => readFlags { flags with multiLine := true } rest
  | 's' :: rest => readFlags { flags with dotAll := true } rest
  | c :: rest => if idleFlags.contains c then readFlags flags rest else .error (.flag c)

/-- The pattern of a literal.  Flags are checked before the body. -/
def compile (body flags : Text) : Except Refusal Pattern :=
  match readFlags {} flags with
  | .error refusal => .error refusal
  | .ok flags =>
    match Pattern.read? flags (unescapeSlashes body) with
    | some pattern => .ok pattern
    | none => .error .pattern

end SyntaxGraft.Regex
