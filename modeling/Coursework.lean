import Coursework.Api.Assignments
import Coursework.Api.Body
import Coursework.Api.Classrooms
import Coursework.Api.Credentials
import Coursework.Api.Refusal
import Coursework.Api.Route
import Coursework.Api.Server
import Coursework.Api.World
import Coursework.Assignment.Brief
import Coursework.Assignment.Outline
import Coursework.Assignment.Placeholders
import Coursework.Assignment.Record
import Coursework.Assignment.Rejection
import Coursework.Assignment.Reply
import Coursework.Decimal.Binary64
import Coursework.Decimal.Shortest
import Coursework.Diagnostic
import Coursework.Document.Compilation
import Coursework.Document.Content
import Coursework.Document.Markdown
import Coursework.Document.Operation
import Coursework.Document.Request
import Coursework.Document.Token
import Coursework.Failure
import Coursework.Form.Fields
import Coursework.Form.Issue
import Coursework.Form.Listing
import Coursework.Form.Mailbox
import Coursework.Form.Scalar
import Coursework.Json.Basic
import Coursework.Json.Compact
import Coursework.Json.Literal
import Coursework.Json.Reader
import Coursework.Json.Writer
import Coursework.Mail.Address
import Coursework.Mail.AddressList
import Coursework.Mail.Body
import Coursework.Mail.EncodedWord
import Coursework.Mail.Fault
import Coursework.Mail.Folding
import Coursework.Mail.Mailbox
import Coursework.Mail.Message
import Coursework.Mail.Piece
import Coursework.Mail.Reader
import Coursework.Mail.Unstructured
import Coursework.Mail.Word
import Coursework.Mailbox.Domain
import Coursework.Mailbox.Fault
import Coursework.Mailbox.HostNumber
import Coursework.Mailbox.Reading
import Coursework.Mailbox.Sign
import Coursework.Markdown.Block
import Coursework.Markdown.Container
import Coursework.Markdown.Draft
import Coursework.Markdown.Emphasis
import Coursework.Markdown.Html
import Coursework.Markdown.Inline
import Coursework.Markdown.Leaf
import Coursework.Markdown.Line
import Coursework.Markdown.Link
import Coursework.Model.Completion
import Coursework.Model.Context
import Coursework.Model.Generation
import Coursework.Model.Prompt
import Coursework.Proofs.Api.Admission
import Coursework.Proofs.Api.Approvable
import Coursework.Proofs.Api.Approval
import Coursework.Proofs.Api.Atomicity
import Coursework.Proofs.Api.Course
import Coursework.Proofs.Api.Creation
import Coursework.Proofs.Api.Gate
import Coursework.Proofs.Api.History
import Coursework.Proofs.Api.Marking
import Coursework.Proofs.Api.Reads
import Coursework.Proofs.Api.Rejected
import Coursework.Proofs.Api.Routes
import Coursework.Proofs.Api.Rows
import Coursework.Proofs.Api.Run
import Coursework.Proofs.Api.Service
import Coursework.Proofs.Api.Step
import Coursework.Proofs.Api.Work
import Coursework.Proofs.Api.Writing
import Coursework.Proofs.Assignment.Acceptance
import Coursework.Proofs.Assignment.Fences
import Coursework.Proofs.Assignment.Leading
import Coursework.Proofs.Assignment.Precedence
import Coursework.Proofs.Assignment.Requests
import Coursework.Proofs.Assignment.Taxonomy
import Coursework.Proofs.Assignment.Transparency
import Coursework.Proofs.Assignment.Written
import Coursework.Proofs.Document.Agreement
import Coursework.Proofs.Document.Composition
import Coursework.Proofs.Document.Content
import Coursework.Proofs.Document.Contiguity
import Coursework.Proofs.Document.Items
import Coursework.Proofs.Document.Literal
import Coursework.Proofs.Document.Mapping
import Coursework.Proofs.Document.Notices
import Coursework.Proofs.Document.Page
import Coursework.Proofs.Document.Parts
import Coursework.Proofs.Document.Placement
import Coursework.Proofs.Document.Printing
import Coursework.Proofs.Document.Shape
import Coursework.Proofs.Document.Totality
import Coursework.Proofs.Ending
import Coursework.Proofs.Json.Compact
import Coursework.Proofs.Json.Literal
import Coursework.Proofs.Json.Numerals
import Coursework.Proofs.Json.Quoted
import Coursework.Proofs.Json.Reading
import Coursework.Proofs.Json.RoundTrip
import Coursework.Proofs.Mail.Address
import Coursework.Proofs.Mail.Delivery
import Coursework.Proofs.Mail.EncodedWord
import Coursework.Proofs.Mail.Encoding
import Coursework.Proofs.Mail.Fields
import Coursework.Proofs.Mail.Folding
import Coursework.Proofs.Mail.FreeText
import Coursework.Proofs.Mail.Keeping
import Coursework.Proofs.Mail.Message
import Coursework.Proofs.Mail.Transfer
import Coursework.Proofs.Mail.Unfolding
import Coursework.Proofs.Mail.Unstructured
import Coursework.Proofs.Mail.Word
import Coursework.Proofs.Mailbox.Ordinary
import Coursework.Proofs.Mailbox.Plain
import Coursework.Proofs.Markdown.Destinations
import Coursework.Proofs.Markdown.Extras
import Coursework.Proofs.Markdown.Growth
import Coursework.Proofs.Markdown.Opening
import Coursework.Proofs.Markdown.Parts
import Coursework.Proofs.Markdown.Signs
import Coursework.Proofs.Markdown.Suffix
import Coursework.Proofs.Markdown.Unescape
import Coursework.Proofs.Model.Context
import Coursework.Proofs.Model.Generation
import Coursework.Proofs.Model.Template
import Coursework.Proofs.Outcome
import Coursework.Proofs.Outline.BlankLines
import Coursework.Proofs.Outline.Closing
import Coursework.Proofs.Outline.Containment
import Coursework.Proofs.Outline.Encodable
import Coursework.Proofs.Outline.Escape
import Coursework.Proofs.Outline.Fidelity
import Coursework.Proofs.Outline.Folding
import Coursework.Proofs.Outline.NormalForm
import Coursework.Proofs.Outline.Pieces
import Coursework.Proofs.Outline.Recovery
import Coursework.Proofs.Outline.Retention
import Coursework.Proofs.Outline.Sections
import Coursework.Proofs.Outline.Settled
import Coursework.Proofs.Outline.Spelling
import Coursework.Proofs.Outline.Standing
import Coursework.Proofs.Outline.Tasks
import Coursework.Proofs.Outline.Title
import Coursework.Proofs.Remote.Filling
import Coursework.Proofs.Remote.Mailing
import Coursework.Proofs.Remote.Publication
import Coursework.Proofs.Remote.Session
import Coursework.Proofs.Store.Ascending
import Coursework.Proofs.Text.Base64
import Coursework.Proofs.Text.Decoding
import Coursework.Proofs.Text.Lines
import Coursework.Proofs.Text.Numeral
import Coursework.Proofs.Text.Paragraphs
import Coursework.Proofs.Text.Punycode
import Coursework.Proofs.Text.Trimming
import Coursework.Proofs.Text.Units
import Coursework.Proofs.Text.Utf8
import Coursework.Proofs.Text.Words
import Coursework.Remote.Document
import Coursework.Remote.Educator
import Coursework.Remote.Exchange
import Coursework.Remote.Grounds
import Coursework.Remote.Mailing
import Coursework.Store.Access
import Coursework.Store.Basic
import Coursework.Store.Connection
import Coursework.Store.Fault
import Coursework.Store.Rows
import Coursework.Store.Seed
import Coursework.Text.Base64
import Coursework.Text.Basic
import Coursework.Text.Blank
import Coursework.Text.Digit
import Coursework.Text.Encoding
import Coursework.Text.Fold
import Coursework.Text.Percent
import Coursework.Text.Printable
import Coursework.Text.Punctuation
import Coursework.Text.Punycode
import Coursework.Web.Message
import Coursework.Web.Origin
