import NodeCall.Batch.Timeline
import NodeCall.CommandLine.Rehearsal
import NodeCall.Fallback.Timeline
import NodeCall.Main
import NodeCall.Proofs.Batch.Pairing
import NodeCall.Proofs.Socket.Answers
import NodeCall.Proofs.Socket.Confirmations
import NodeCall.Proofs.Socket.Lifecycle
import NodeCall.Proofs.Socket.Replies
import NodeCall.Proofs.Batch.Timers
import NodeCall.Proofs.Socket.Routes
import NodeCall.Proofs.Batch.Closing
import NodeCall.Proofs.Fallback.Walks
import NodeCall.Proofs.Http.Elements
import NodeCall.Proofs.Retry.Attempts
import NodeCall.Proofs.Http.Awaiting
import NodeCall.Proofs.Http.Calm
import NodeCall.Proofs.Http.Fairness
import NodeCall.Proofs.Http.Transparency
import NodeCall.Proofs.Http.CallerIds
import NodeCall.Proofs.Socket.Frames
import NodeCall.Proofs.Socket.Losses
import NodeCall.Proofs.Rpc.RoundTrip
import NodeCall.Proofs.Retry.Cancellation
import NodeCall.Proofs.Http.Lists
import NodeCall.Proofs.Rpc.Classification
import NodeCall.Proofs.Rpc.Decoding
import NodeCall.Proofs.Endpoint.Credentials
import NodeCall.Proofs.Endpoint.Sanitizing
import NodeCall.Proofs.Executor.Raw
import NodeCall.Proofs.Fallback.Order
import NodeCall.Proofs.Fallback.Scores
import NodeCall.Proofs.Refusals
import NodeCall.Proofs.Duration
import NodeCall.Proofs.Retry.Backoff
import NodeCall.Proofs.CommandLine
import NodeCall.Proofs.Fallback.Latency
import NodeCall.Proofs.Generators
