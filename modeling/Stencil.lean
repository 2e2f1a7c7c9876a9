import Stencil.Main
import Stencil.Submission
import Stencil.Proofs.Related
import Stencil.Proofs.Tag.Head
import Stencil.Proofs.Tag.Init
import Stencil.Proofs.Tag.Validation
import Stencil.Proofs.Tag.Initialized
import Stencil.Proofs.Tag.Outcome
import Stencil.Proofs.Outline.Basic
import Stencil.Proofs.Arena
import Stencil.Proofs.Outline.Standing
import Stencil.Proofs.Outline.Refinement
import Stencil.Proofs.Outline.Places
import Stencil.Proofs.Outline.Matching
import Stencil.Proofs.Links
import Stencil.Proofs.Reached
import Stencil.Proofs.Outline.Skipping
import Stencil.Proofs.LeftOut
import Stencil.Proofs.Forest
import Stencil.Proofs.Reading
import Stencil.Proofs.Tree
import Stencil.Proofs.Site
import Stencil.Proofs.Growth
import Stencil.Proofs.Fragment.Joining
import Stencil.Proofs.Forms
import Stencil.Proofs.Controls
import Stencil.Proofs.Submission
import Stencil.Proofs.Registry
import Stencil.Proofs.Outline.Shells
import Stencil.Proofs.Placement.Rules
import Stencil.Proofs.Placement.Checked
import Stencil.Proofs.Placement.Written
import Stencil.Proofs.Placement.Ids
import Stencil.Proofs.Text.Cleansing
import Stencil.Proofs.Fields.Prepared
import Stencil.Proofs.Fields.Record
import Stencil.Proofs.Fields.Written
import Stencil.Proofs.Fields.Required
import Stencil.Proofs.Regex.Length
import Stencil.Proofs.Fields.Constraints
import Stencil.Proofs.Fields.Cleansed
import Stencil.Proofs.Fields.Uploads
import Stencil.Proofs.Selects
import Stencil.Proofs.Brackets
import Stencil.Proofs.Brackets.Cut
import Stencil.Proofs.Inputs.Left
import Stencil.Proofs.Inputs.Shown
import Stencil.Proofs.Inputs
import Stencil.Proofs.Radios
import Stencil.Proofs.Expr.Parsing
import Stencil.Proofs.Independence
import Stencil.Proofs.Revalidation
import Stencil.Proofs.Json.Decimal
import Stencil.Proofs.Json.Text
import Stencil.Proofs.Double.Whole
import Stencil.Proofs.Dynamics
import Stencil.Proofs.View.Codec
import Stencil.Proofs.Form.Codec
import Stencil.Proofs.Markup.Writing
import Stencil.Proofs.Files.Path
import Stencil.Proofs.Files.Tree
import Stencil.Proofs.Files.Law
import Stencil.Proofs.Cache.Places
import Stencil.Proofs.Cache.Frame
import Stencil.Proofs.Cache.Events
import Stencil.Proofs.Cache.Sources
import Stencil.Proofs.Cache.Layout
import Stencil.Proofs.Cache.Storing
import Stencil.Proofs.Cache.Freshness
import Stencil.Proofs.Cache.Stored
import Stencil.Proofs.Files.Listing
import Stencil.Proofs.Cache.Dropped
import Stencil.Proofs.Files.Descent
import Stencil.Proofs.Cache.Interruption
import Stencil.Proofs.Html
import Stencil.Proofs.Expr.Writing
import Stencil.Proofs.Text.Search
import Stencil.Proofs.Placeholder.Cut
import Stencil.Proofs.View.Escaping
import Stencil.Proofs.View.ErrorTemplate
import Stencil.Proofs.View.Secrecy
import Stencil.Proofs.Expr.Assignment
import Stencil.Proofs.Expr.Refusal
import Stencil.Proofs.Markup.Cover
import Stencil.Proofs.Markup.Namespaces
import Stencil.Proofs.Arena.Walk
import Stencil.Proofs.Brackets.Written
import Stencil.Proofs.Regex.Ordered
import Stencil.Proofs.Text.Markup
import Stencil.Proofs.Files.Answers
import Stencil.Proofs.Registry.Convention
import Stencil.Proofs.Registry.Known
import Stencil.Proofs.Registry.Discover
import Stencil.Proofs.Pattern
