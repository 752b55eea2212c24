import SyntaxGraft.Main
import SyntaxGraft.Proofs.Command.Collection
import SyntaxGraft.Proofs.Command.Isolation
import SyntaxGraft.Proofs.Command.Shares
import SyntaxGraft.Proofs.Expression.Grammar
import SyntaxGraft.Proofs.Expression.Parentheses
import SyntaxGraft.Proofs.Graft.Identity
import SyntaxGraft.Proofs.Graft.LeftEdge
import SyntaxGraft.Proofs.Graft.Operands
import SyntaxGraft.Proofs.Graft.Printable
import SyntaxGraft.Proofs.Graft.SecondPass
import SyntaxGraft.Proofs.Graft.Signs
import SyntaxGraft.Proofs.Graft.Splicing
import SyntaxGraft.Proofs.Graft.Substitution
import SyntaxGraft.Proofs.Graft.Walk
import SyntaxGraft.Proofs.Number.Prefixed
import SyntaxGraft.Proofs.Parse.Conversion
import SyntaxGraft.Proofs.Parse.Faithful
import SyntaxGraft.Proofs.Parse.Numbering
import SyntaxGraft.Proofs.Parse.SourceOrder
import SyntaxGraft.Proofs.Parse.Verbatim
import SyntaxGraft.Proofs.Rules.Run
import SyntaxGraft.Proofs.Rules.Validation
import SyntaxGraft.Proofs.Selector.Bounds
import SyntaxGraft.Proofs.Selector.Cache
import SyntaxGraft.Proofs.Selector.CacheHistory
import SyntaxGraft.Proofs.Selector.Completeness
import SyntaxGraft.Proofs.Selector.Cursor
import SyntaxGraft.Proofs.Selector.Order
import SyntaxGraft.Proofs.Selector.Progress
import SyntaxGraft.Proofs.Selector.RegexLiteral
import SyntaxGraft.Proofs.Selector.Rendering
import SyntaxGraft.Proofs.Selector.Semantics
import SyntaxGraft.Proofs.Selector.Shorthand
import SyntaxGraft.Proofs.Selector.Soundness
import SyntaxGraft.Proofs.Selector.Spelling
import SyntaxGraft.Proofs.Selector.Subtree
import SyntaxGraft.Proofs.Selector.Walk
import SyntaxGraft.Proofs.Store.Interleaving
import SyntaxGraft.Proofs.Store.Lookup
import SyntaxGraft.Proofs.Store.Walk
import SyntaxGraft.Proofs.Text.Splice
import SyntaxGraft.Proofs.Tree.Anchor
import SyntaxGraft.Proofs.Tree.Copy
import SyntaxGraft.Proofs.Tree.FieldList
import SyntaxGraft.Proofs.Tree.Kinship
import SyntaxGraft.Proofs.Tree.Position
import SyntaxGraft.Proofs.Tree.Preorder
import SyntaxGraft.Proofs.Unicode.Blank
