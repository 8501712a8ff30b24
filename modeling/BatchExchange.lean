import BatchExchange.BodyPart
import BatchExchange.Boundary
import BatchExchange.BoundarySource
import BatchExchange.Config
import BatchExchange.ContentLength
import BatchExchange.HeaderBlock
import BatchExchange.HeaderName
import BatchExchange.Headers
import BatchExchange.Json
import BatchExchange.Line
import BatchExchange.MediaType
import BatchExchange.Method
import BatchExchange.Operation
import BatchExchange.Outer.Answer
import BatchExchange.Outer.Endpoint
import BatchExchange.Outer.Envelope
import BatchExchange.Outer.Uri
import BatchExchange.Part
import BatchExchange.Preference
import BatchExchange.Processor
import BatchExchange.Proofs.Announcement
import BatchExchange.Proofs.BodyPart
import BatchExchange.Proofs.Boundary
import BatchExchange.Proofs.ChangeSet
import BatchExchange.Proofs.Continuation
import BatchExchange.Proofs.Correlation
import BatchExchange.Proofs.Delimiter
import BatchExchange.Proofs.Ending
import BatchExchange.Proofs.Exchange
import BatchExchange.Proofs.Extent
import BatchExchange.Proofs.Folding
import BatchExchange.Proofs.Freshness
import BatchExchange.Proofs.HeaderBlock
import BatchExchange.Proofs.Headers
import BatchExchange.Proofs.Headers.OrderedMap
import BatchExchange.Proofs.Line
import BatchExchange.Proofs.Line.Bijection
import BatchExchange.Proofs.Outcome
import BatchExchange.Proofs.Outer.Answer
import BatchExchange.Proofs.Outer.Root
import BatchExchange.Proofs.Partition
import BatchExchange.Proofs.Parts
import BatchExchange.Proofs.Position
import BatchExchange.Proofs.Preference
import BatchExchange.Proofs.Recording
import BatchExchange.Proofs.Reference
import BatchExchange.Proofs.ReferenceTable
import BatchExchange.Proofs.Refusal
import BatchExchange.Proofs.Request.Acceptance
import BatchExchange.Proofs.Request.BodyExpansion
import BatchExchange.Proofs.Request.BodySlice
import BatchExchange.Proofs.Request.Completeness
import BatchExchange.Proofs.Request.ContentId
import BatchExchange.Proofs.Request.ContentLength
import BatchExchange.Proofs.Request.Dispatch
import BatchExchange.Proofs.Request.Draft
import BatchExchange.Proofs.Request.Expansion
import BatchExchange.Proofs.Request.Leniency
import BatchExchange.Proofs.Request.LineFeeds
import BatchExchange.Proofs.Request.OneLine
import BatchExchange.Proofs.Request.PartContentId
import BatchExchange.Proofs.Request.PathExpansion
import BatchExchange.Proofs.Request.Position
import BatchExchange.Proofs.Request.TargetShape
import BatchExchange.Proofs.Response.Message
import BatchExchange.Proofs.Response.Numbered
import BatchExchange.Proofs.Response.RoundTrip
import BatchExchange.Proofs.Segment
import BatchExchange.Proofs.Service
import BatchExchange.Proofs.Target
import BatchExchange.Proofs.Text
import BatchExchange.Proofs.Url
import BatchExchange.Proofs.Url.Rooted
import BatchExchange.Proofs.Written
import BatchExchange.References
import BatchExchange.Rejection
import BatchExchange.Request
import BatchExchange.Request.Acceptance
import BatchExchange.Request.Batch
import BatchExchange.RequestLine
import BatchExchange.Response
import BatchExchange.Response.Reader
import BatchExchange.Response.Status
import BatchExchange.Response.Writer
import BatchExchange.Segment
import BatchExchange.Service
import BatchExchange.Target
import BatchExchange.Text
import BatchExchange.Text.Composed
import BatchExchange.Text.Decimal
import BatchExchange.Text.Escaped
import BatchExchange.Text.Hexadecimal
import BatchExchange.Text.Mark
import BatchExchange.Text.Printable
import BatchExchange.Text.Table
import BatchExchange.Text.Utf8
import BatchExchange.Url
import BatchExchange.Url.Address
import BatchExchange.Url.Domain
import BatchExchange.Url.Domain.Direction
import BatchExchange.Url.Domain.Joiner
import BatchExchange.Url.Domain.Mapping
import BatchExchange.Url.Host
import BatchExchange.Url.Path
import BatchExchange.Url.Percent
import BatchExchange.Url.Punycode
