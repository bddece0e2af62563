import RemoteTable.Config.LogFormat
import RemoteTable.Config.Reading
import RemoteTable.Cursor.Queue
import RemoteTable.Remote.Recording
import RemoteTable.Remote.Scan
import RemoteTable.Proofs.Number.Integer
import RemoteTable.Proofs.Number.Numeral
import RemoteTable.Proofs.Number.Padded
import RemoteTable.Proofs.Decimal.Plain
import RemoteTable.Proofs.Decimal.Whole
import RemoteTable.Proofs.Time.Text
import RemoteTable.Proofs.Time.Epoch
import RemoteTable.Proofs.Time.Forms
import RemoteTable.Proofs.Time.Zoned
import RemoteTable.Proofs.Value.Text
import RemoteTable.Proofs.Value.RoundTrip
import RemoteTable.Proofs.Value.Temporal
import RemoteTable.Proofs.Value.Numbers
import RemoteTable.Proofs.Path.Names
import RemoteTable.Proofs.Filter.Leaf
import RemoteTable.Proofs.Filter.Refusal
import RemoteTable.Proofs.Filter.Residual
import RemoteTable.Proofs.Filter.Widening
import RemoteTable.Proofs.Request.Rendering
import RemoteTable.Proofs.Response.Keys
import RemoteTable.Proofs.Response.LeafText
import RemoteTable.Proofs.Response.LeafCell
import RemoteTable.Proofs.Cursor.Delivery
import RemoteTable.Proofs.Cursor.Drain
import RemoteTable.Proofs.Cursor.Slots
import RemoteTable.Proofs.Cursor.Reindexing
import RemoteTable.Proofs.Remote.Requests
import RemoteTable.Proofs.Remote.Result
import RemoteTable.Proofs.Remote.Retry
import RemoteTable.Proofs.Remote.Start
import RemoteTable.Proofs.Markup.Nesting
import RemoteTable.Proofs.Markup.Document
import RemoteTable.Proofs.Response.Grouping
import RemoteTable.Proofs.Response.Scalars
import RemoteTable.Proofs.Response.Address
import RemoteTable.Proofs.Markup.Tag
import RemoteTable.Proofs.Markup.Piece
import RemoteTable.Proofs.Markup.Writing
import RemoteTable.Proofs.Response.LeafContent
import RemoteTable.Proofs.Filter.FirstBinding
import RemoteTable.Proofs.Filter.Flattening
import RemoteTable.Proofs.Path.Padding
import RemoteTable.Proofs.Response.Selection
import RemoteTable.Proofs.Cursor.Stored
import RemoteTable.Proofs.Number.Leading
import RemoteTable.Proofs.Json.Members
import RemoteTable.Proofs.Request.Keys
import RemoteTable.Proofs.Value.Kind
import RemoteTable.Proofs.Path.Token
import RemoteTable.Proofs.Path.Ahead
import RemoteTable.Proofs.Path.Extension
import RemoteTable.Proofs.Response.Unwrapping
import RemoteTable.Proofs.Delimited.Writing
import RemoteTable.Proofs.Response.Columns
import RemoteTable.Proofs.Value.Encoding
import RemoteTable.Proofs.Filter.ZonedLiteral
import RemoteTable.Proofs.Schema.Index
import RemoteTable.Proofs.Response.LeafNumber
