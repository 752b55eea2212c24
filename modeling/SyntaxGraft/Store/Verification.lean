import SyntaxGraft.Store.Utf8
import SyntaxGraft.Store.Xxh3
/-!
# Recognising a text again

What is kept of a text in order to recognise it later: the text itself while it is short, and only
its hash when it is long.

`accepts_ofText`: a text is recognised by what was kept of it.
-/

namespace SyntaxGraft

/-- The hash of a text: that of its bytes. -/
def Text.hash (text : Text) : UInt64 :=
  Xxh3.hash (Utf8.encode text).toList

/-- What is kept of a text to recognise it. -/
inductive Verification where
  /-- The text itself. -/
  | whole (text : Text)
  /-- The hash of the text. -/
  | digest (hash : UInt64)

namespace Verification

/-- The number of bytes up to which a text is kept whole. -/
def limit : Nat := 1024

/-- What is kept of a text. -/
def ofText (text : Text) : Verification :=
  if text.size ≤ limit then .whole text else .digest text.hash

/-- The hash of the text that is to be recognised. -/
def hash : Verification → UInt64
  | .whole text => text.hash
  | .digest hash => hash

/-- The text is taken for the one that is to be recognised. -/
def accepts : Verification → Text → Bool
  | .whole expected, text => text == expected
  | .digest hash, text => text.hash == hash

theorem hash_ofText (text : Text) : (ofText text).hash = text.hash := by
  unfold ofText
  split <;> rfl

theorem accepts_ofText (text : Text) : (ofText text).accepts text = true := by
  unfold ofText
  split <;> simp [accepts]

end Verification

end SyntaxGraft
