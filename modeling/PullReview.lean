import PullReview.Web.Site
import PullReview.Report.Written
import PullReview.Listing.Pages
import PullReview.Web.Address
import PullReview.Json.Display
import PullReview.Run.Handler
import PullReview.Run.Service
import PullReview.Store.Call
import PullReview.Store.Upsert
import PullReview.Progress
import PullReview.Event.Basic
import PullReview.Signature
import PullReview.Settings
import PullReview.File.Analysis
import PullReview.Rule.Detector
import PullReview.Diff.Added
import PullReview.Diff.Complexity
import PullReview.Issue
import PullReview.Json.Encoding
import PullReview.Json.Printer
import PullReview.Number.Shortest
import PullReview.Bytes.Hmac
import PullReview.Bytes.Hex
import PullReview.Text.Word
import PullReview.Text.Digit
import PullReview.Text.Lines
import PullReview.Text.Pattern
import PullReview.Text.Integer
import PullReview.Proofs.Json.Nesting
import PullReview.Proofs.Store.Life
import PullReview.Proofs.Store.Placement
import PullReview.Proofs.Store.Repetition
import PullReview.Proofs.Run.Arrival
import PullReview.Proofs.Run.Abandonment
import PullReview.Proofs.Diff.Numbering
import PullReview.Proofs.Event.Reading
import PullReview.Proofs.Run.Superseded
import PullReview.Proofs.Web.Delivery
import PullReview.Proofs.Web.Pages
import PullReview.Proofs.Run.Redelivery
import PullReview.Proofs.Run.Interference
import PullReview.Proofs.Run.Success
import PullReview.Proofs.Run.Metadata
import PullReview.Proofs.Store.Holdings
import PullReview.Proofs.Store.Queueing
import PullReview.Proofs.Run.Orphans
import PullReview.Proofs.Run.Returning
import PullReview.Proofs.Store.Timestamps
import PullReview.Proofs.Run.Ascent
import PullReview.Proofs.Run.LostNotes
import PullReview.Proofs.Run.Failing
import PullReview.Proofs.Store.Guards
import PullReview.Proofs.Store.Removal
import PullReview.Proofs.Run.Tokens
import PullReview.Proofs.Run.Registration
import PullReview.Proofs.Diff.Places
import PullReview.Proofs.File.Shifting
import PullReview.Proofs.Rule.Recognition
import PullReview.Proofs.Diff.Depth
import PullReview.Proofs.Diff.Scoring
import PullReview.Proofs.File.Directories
import PullReview.Proofs.Rule.Indentation
import PullReview.Proofs.Event.Declared
import PullReview.Proofs.Listing.Outcomes
import PullReview.Proofs.Event.Canonical
import PullReview.Proofs.Diff.Openers
import PullReview.Proofs.Web.Reading
import PullReview.Proofs.Report.Tally
import PullReview.Proofs.Web.Agreement
