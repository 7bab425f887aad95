import ReviewDesk.Json.Value
import ReviewDesk.Session.Run
import ReviewDesk.Desk
import ReviewDesk.Program
import ReviewDesk.Main
import ReviewDesk.Proofs.Desk.Step
import ReviewDesk.Proofs.Desk.Record
import ReviewDesk.Proofs.Desk.Books
import ReviewDesk.Proofs.Desk.Waiting
import ReviewDesk.Proofs.Desk.Calls
import ReviewDesk.Proofs.Desk.Shown
import ReviewDesk.Proofs.Session.Generation
import ReviewDesk.Proofs.Session.Step
import ReviewDesk.Proofs.Desk.LateAnswers
import ReviewDesk.Proofs.Desk.Reset
import ReviewDesk.Proofs.Desk.Mirror
import ReviewDesk.Proofs.Session.Tickets
import ReviewDesk.Proofs.Session.Refused
import ReviewDesk.Proofs.Desk.Controls
import ReviewDesk.Proofs.Json.Grammar
import ReviewDesk.Proofs.Json.Run
import ReviewDesk.Proofs.Json.Texts
import ReviewDesk.Proofs.Text.Utf8
import ReviewDesk.Proofs.Json.Literals
import ReviewDesk.Proofs.Json.Reads
import ReviewDesk.Proofs.Json.Records
import ReviewDesk.Proofs.Json.Escapes
import ReviewDesk.Proofs.Decimal.Text
import ReviewDesk.Proofs.Json.Numbers
import ReviewDesk.Proofs.Json.Written
import ReviewDesk.Proofs.Documents
import ReviewDesk.Proofs.Service.Exchange
import ReviewDesk.Proofs.Program
import ReviewDesk.Proofs.Json.Tree
import ReviewDesk.Proofs.Json.AnyTexts
import ReviewDesk.Proofs.Json.Skip
import ReviewDesk.Proofs.Json.Meaning
import ReviewDesk.Proofs.Json.Members
import ReviewDesk.Proofs.Json.Rows
import ReviewDesk.Proofs.Json.Layout
import ReviewDesk.Proofs.Review.Body
import ReviewDesk.Proofs.Review.Layout
import ReviewDesk.Proofs.Desk.Served
import ReviewDesk.Proofs.Review.Bounds
import ReviewDesk.Proofs.Service.Unfit
import ReviewDesk.Proofs.Json.Unambiguous
import ReviewDesk.Proofs.Review.Request
import ReviewDesk.Proofs.Text.Uppercase
import ReviewDesk.Proofs.Display.Lines
import ReviewDesk.Proofs.Display.Sheet
import ReviewDesk.Proofs.Display.Label
import ReviewDesk.Proofs.Display.Rows
import ReviewDesk.Proofs.Display.Text
import ReviewDesk.Proofs.Display.Document
import ReviewDesk.Proofs.Text.Split
import ReviewDesk.Proofs.Url.Percent
import ReviewDesk.Proofs.Url.Path
import ReviewDesk.Proofs.Url.Append
import ReviewDesk.Proofs.Url.IPv4
import ReviewDesk.Proofs.Url.IPv6
import ReviewDesk.Proofs.Url.Host
import ReviewDesk.Proofs.Url.ReadBack
import ReviewDesk.Proofs.Service.Endpoint
import ReviewDesk.Proofs.Desk.Failed
import ReviewDesk.Proofs.Json.InOrder
import ReviewDesk.Proofs.Json.Places
import ReviewDesk.Proofs.Review.Listed
import ReviewDesk.Proofs.Json.Counts
import ReviewDesk.Proofs.Review.Counts
