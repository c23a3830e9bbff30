import ScriptStyle.Main
import ScriptStyle.Files.Tree
import ScriptStyle.Text.Json
import ScriptStyle.Proofs.Places
import ScriptStyle.Proofs.Acceptance
import ScriptStyle.Proofs.Sites
import ScriptStyle.Proofs.Semicolons
import ScriptStyle.Proofs.Spacing
import ScriptStyle.Proofs.LineEnds
import ScriptStyle.Proofs.Density
import ScriptStyle.Proofs.Fields
import ScriptStyle.Proofs.Naming
import ScriptStyle.Proofs.Tokens
import ScriptStyle.Proofs.Nesting
import ScriptStyle.Proofs.Spots
import ScriptStyle.Proofs.Variables
import ScriptStyle.Proofs.Punctuators
import ScriptStyle.Proofs.Faults
import ScriptStyle.Proofs.Beginnings
import ScriptStyle.Proofs.Contents
import ScriptStyle.Proofs.Composition
import ScriptStyle.Proofs.Lines
import ScriptStyle.Proofs.Order
import ScriptStyle.Proofs.LinesBefore
import ScriptStyle.Proofs.Paths
import ScriptStyle.Proofs.Preparation
import ScriptStyle.Proofs.Reads
import ScriptStyle.Proofs.Reports
import ScriptStyle.Proofs.Outcome
import ScriptStyle.Proofs.Windows
import ScriptStyle.Proofs.Removal
import ScriptStyle.Proofs.Collection
import ScriptStyle.Proofs.Written
import ScriptStyle.Proofs.ReadBack
import ScriptStyle.Proofs.RoundTrip
import ScriptStyle.Proofs.Operators
import ScriptStyle.Proofs.NameWarnings
import ScriptStyle.Proofs.Bindings
import ScriptStyle.Proofs.Comments
import ScriptStyle.Proofs.AnyValue
import ScriptStyle.Proofs.Members
import ScriptStyle.Proofs.Defaults
import ScriptStyle.Proofs.Selection
import ScriptStyle.Proofs.Unambiguous
import ScriptStyle.Proofs.Listing
import ScriptStyle.Proofs.Labels
import ScriptStyle.Proofs.Offsets
import ScriptStyle.Proofs.Words
import ScriptStyle.Proofs.Excerpts
