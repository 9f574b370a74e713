import FixedReply.Main
import FixedReply.Proofs.Bytes.Search
import FixedReply.Proofs.Command
import FixedReply.Proofs.Config
import FixedReply.Proofs.Echo
import FixedReply.Proofs.Http.Authority
import FixedReply.Proofs.Http.Encodable
import FixedReply.Proofs.Http.FieldNames
import FixedReply.Proofs.Http.Fields
import FixedReply.Proofs.Http.Framing
import FixedReply.Proofs.Http.Grammar
import FixedReply.Proofs.Http.HeadFaults
import FixedReply.Proofs.Http.HeadFields
import FixedReply.Proofs.Http.LineBreaks
import FixedReply.Proofs.Http.Paths
import FixedReply.Proofs.Http.Routes
import FixedReply.Proofs.Http.SentFields
import FixedReply.Proofs.Http.TargetForms
import FixedReply.Proofs.Http.Tokens
import FixedReply.Proofs.Http.WrittenHead
import FixedReply.Proofs.Server.Accepting
import FixedReply.Proofs.Server.Accounts
import FixedReply.Proofs.Server.Answers
import FixedReply.Proofs.Server.Apart
import FixedReply.Proofs.Server.Attended
import FixedReply.Proofs.Server.Calm
import FixedReply.Proofs.Server.Ceasing
import FixedReply.Proofs.Server.Closing
import FixedReply.Proofs.Server.Conversation
import FixedReply.Proofs.Server.Course
import FixedReply.Proofs.Server.Deadlines
import FixedReply.Proofs.Server.Discipline
import FixedReply.Proofs.Server.Finishing
import FixedReply.Proofs.Server.HeadAnswers
import FixedReply.Proofs.Server.Heads
import FixedReply.Proofs.Server.Life
import FixedReply.Proofs.Server.Lifecycle
import FixedReply.Proofs.Server.Limits
import FixedReply.Proofs.Server.Operations
import FixedReply.Proofs.Server.Paced
import FixedReply.Proofs.Server.Persistence
import FixedReply.Proofs.Server.Pipelining
import FixedReply.Proofs.Server.Segmentation
import FixedReply.Proofs.Server.Shifts
import FixedReply.Proofs.Server.Staffing
import FixedReply.Proofs.Server.Steps
import FixedReply.Proofs.Server.Timing
import FixedReply.Proofs.Server.Turns
import FixedReply.Proofs.Server.Workers
import FixedReply.Proofs.Service
import FixedReply.Proofs.Text.Case
import FixedReply.Proofs.Text.Parts
import FixedReply.Proofs.Wire.Ahead
import FixedReply.Proofs.Wire.Bounds
import FixedReply.Proofs.Wire.Buffered
import FixedReply.Proofs.Wire.Chunks
import FixedReply.Proofs.Wire.Client
import FixedReply.Proofs.Wire.Coding
import FixedReply.Proofs.Wire.Deadline
import FixedReply.Proofs.Wire.Decoding
import FixedReply.Proofs.Wire.Demands
import FixedReply.Proofs.Wire.Dialogue
import FixedReply.Proofs.Wire.FieldLines
import FixedReply.Proofs.Wire.Follow
import FixedReply.Proofs.Wire.Front
import FixedReply.Proofs.Wire.Interim
import FixedReply.Proofs.Wire.Lines
import FixedReply.Proofs.Wire.Onward
import FixedReply.Proofs.Wire.Outcome
import FixedReply.Proofs.Wire.Pieces
import FixedReply.Proofs.Wire.Punctual
import FixedReply.Proofs.Wire.Reading
import FixedReply.Proofs.Wire.Receptions
import FixedReply.Proofs.Wire.Shares
import FixedReply.Proofs.Wire.Sized
import FixedReply.Proofs.Wire.Spelling
import FixedReply.Proofs.Wire.Stages
import FixedReply.Proofs.Wire.Supply
import FixedReply.Proofs.Wire.Trailers
import FixedReply.Proofs.Wire.Written
