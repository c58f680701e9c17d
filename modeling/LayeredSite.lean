import LayeredSite.Log.Progress
import LayeredSite.Main
import LayeredSite.Proofs.Build.Isolation
import LayeredSite.Proofs.Build.Pages
import LayeredSite.Proofs.Build.Reports
import LayeredSite.Proofs.Build.Revisiting
import LayeredSite.Proofs.Build.Runs
import LayeredSite.Proofs.Build.Sources
import LayeredSite.Proofs.Build.Starting
import LayeredSite.Proofs.Build.TagPages
import LayeredSite.Proofs.Cells.Order
import LayeredSite.Proofs.Cells.Sessions
import LayeredSite.Proofs.Cells.Stored
import LayeredSite.Proofs.Config.Resolved
import LayeredSite.Proofs.Disk.Enumeration
import LayeredSite.Proofs.Disk.Growth
import LayeredSite.Proofs.Disk.Places
import LayeredSite.Proofs.Evaluation.Alike
import LayeredSite.Proofs.Evaluation.Application
import LayeredSite.Proofs.Evaluation.Arithmetic
import LayeredSite.Proofs.Evaluation.Bindings
import LayeredSite.Proofs.Evaluation.Conditionals
import LayeredSite.Proofs.Evaluation.Lookups
import LayeredSite.Proofs.Evaluation.Positions
import LayeredSite.Proofs.Evaluation.Scoping
import LayeredSite.Proofs.Header.Unrecognized
import LayeredSite.Proofs.Header.Writing
import LayeredSite.Proofs.Layouts.Nesting
import LayeredSite.Proofs.Log.Bars
import LayeredSite.Proofs.Log.Lines
import LayeredSite.Proofs.Markdown.Nodes
import LayeredSite.Proofs.Markup.Dialects
import LayeredSite.Proofs.Markup.Events
import LayeredSite.Proofs.Markup.Expansion
import LayeredSite.Proofs.Markup.Faults
import LayeredSite.Proofs.Markup.Filling
import LayeredSite.Proofs.Markup.Omission
import LayeredSite.Proofs.Markup.Outline
import LayeredSite.Proofs.Markup.Splicing
import LayeredSite.Proofs.Markup.Words
import LayeredSite.Proofs.Number.Rounding
import LayeredSite.Proofs.Path.Segments
import LayeredSite.Proofs.Reader.Header
import LayeredSite.Proofs.Reader.Places
import LayeredSite.Proofs.Reader.Positions
import LayeredSite.Proofs.Reader.Progress
import LayeredSite.Proofs.Reader.Sequence
import LayeredSite.Proofs.Reader.Tokens
import LayeredSite.Proofs.Site.Aggregation
import LayeredSite.Proofs.Site.Content
import LayeredSite.Proofs.Site.OutputPath
import LayeredSite.Proofs.Site.PostUrls
import LayeredSite.Proofs.Site.Scopes
import LayeredSite.Proofs.Site.TagCounts
import LayeredSite.Proofs.Site.Tallies
