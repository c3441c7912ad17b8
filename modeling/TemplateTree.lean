import TemplateTree.Graph
import TemplateTree.Main
import TemplateTree.Proofs.Occurrence
import TemplateTree.Proofs.TagSpan
import TemplateTree.Proofs.Factorization
import TemplateTree.Proofs.Seam
import TemplateTree.Proofs.Commented
import TemplateTree.Proofs.Step
import TemplateTree.Proofs.Children
import TemplateTree.Proofs.Emission
import TemplateTree.Proofs.Bracket
import TemplateTree.Proofs.Place
import TemplateTree.Proofs.Nesting
import TemplateTree.Proofs.Blank
import TemplateTree.Proofs.Markup
import TemplateTree.Proofs.Written
import TemplateTree.Proofs.Dispatch
import TemplateTree.Proofs.Rendering
import TemplateTree.Proofs.RoundTrip
import TemplateTree.Proofs.Strictness
import TemplateTree.Draft
import TemplateTree.Proofs.Links
import TemplateTree.Proofs.ScopeStack
import TemplateTree.Proofs.Numbering
import TemplateTree.Proofs.Context
import TemplateTree.Proofs.TagReading
import TemplateTree.Proofs.Refusal
import TemplateTree.Proofs.Fault
import TemplateTree.Proofs.Outline
import TemplateTree.Proofs.Recognition
import TemplateTree.Proofs.PathListing
import TemplateTree.Proofs.Classification
import TemplateTree.Proofs.LoopTag
import TemplateTree.Proofs.Registration
import TemplateTree.Proofs.QuotedText
import TemplateTree.Proofs.TreeListing
import TemplateTree.Proofs.Making
import TemplateTree.Proofs.Branches
import TemplateTree.Proofs.Traversal
import TemplateTree.Proofs.TreeGraph
import TemplateTree.Proofs.JsonValue
import TemplateTree.Proofs.Settings
import TemplateTree.Graph.Assignment
import TemplateTree.Proofs.ClosingWord
import TemplateTree.Proofs.Absorption
import TemplateTree.Proofs.Reader
