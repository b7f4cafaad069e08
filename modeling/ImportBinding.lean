import ImportBinding.Main
import ImportBinding.Proofs.Munch
import ImportBinding.Shelf
import ImportBinding.Proofs.Spacing
import ImportBinding.Proofs.Endings
import ImportBinding.Proofs.Frames
import ImportBinding.Proofs.Declarations
import ImportBinding.Proofs.Rows
import ImportBinding.Proofs.Normal
import ImportBinding.Proofs.Rebinding
import ImportBinding.Proofs.Built
import ImportBinding.Proofs.Splicing
import ImportBinding.Proofs.Renaming
import ImportBinding.Proofs.Alone
import ImportBinding.Proofs.Escapes
import ImportBinding.Proofs.Refusing
import ImportBinding.Proofs.Coherence
import ImportBinding.Proofs.Surrogates
import ImportBinding.Proofs.StringValue
import ImportBinding.Proofs.Printing
import ImportBinding.Proofs.Recovery
import ImportBinding.Proofs.Spelling
import ImportBinding.Proofs.Histories
import ImportBinding.Proofs.Identifiers
import ImportBinding.Proofs.Exports
import ImportBinding.Proofs.Joining
import ImportBinding.Proofs.Forms
import ImportBinding.Proofs.Precedence
import ImportBinding.Proofs.Abutting
import ImportBinding.Proofs.Dialects
import ImportBinding.Proofs.Configured
import ImportBinding.Proofs.Reports
import ImportBinding.Proofs.Outcomes
import ImportBinding.Proofs.Untouched
import ImportBinding.Proofs.Offsets
import ImportBinding.Proofs.Faults
import ImportBinding.Proofs.Extents
import ImportBinding.Proofs.Comments
import ImportBinding.Proofs.Markers
import ImportBinding.Proofs.Environment
import ImportBinding.Proofs.Languages
import ImportBinding.Proofs.Recombining
import ImportBinding.Proofs.Sharing
import ImportBinding.Proofs.Glyphs
import ImportBinding.Proofs.Printouts
