import StreamQueue.Entry.Json
import StreamQueue.Main
import StreamQueue.Rehearsal.Play
import StreamQueue.Rehearsal.Session
import StreamQueue.Proofs.Log.History
import StreamQueue.Proofs.Log.View
import StreamQueue.Proofs.Log.InPlace
import StreamQueue.Proofs.Log.Refusal
import StreamQueue.Proofs.Log.Isolation
import StreamQueue.Proofs.Log.Order
import StreamQueue.Proofs.Log.Retention
import StreamQueue.Proofs.Log.Group
import StreamQueue.Proofs.Log.Listing
import StreamQueue.Proofs.Log.Page
import StreamQueue.Proofs.Log.Claim
import StreamQueue.Proofs.Log.FirstDelivery
import StreamQueue.Proofs.Log.Conservation
import StreamQueue.Proofs.Log.Representation
import StreamQueue.Proofs.Log.Lease
import StreamQueue.Proofs.Log.Waiting
import StreamQueue.Proofs.Consumer.Acknowledgement
import StreamQueue.Proofs.Consumer.Session
import StreamQueue.Proofs.Consumer.Cancellation
import StreamQueue.Proofs.Consumer.Reclamation
import StreamQueue.Proofs.Consumer.Discipline
import StreamQueue.Proofs.Consumer.Failure
import StreamQueue.Proofs.Publisher.Backlog
import StreamQueue.Proofs.Publisher.Deadline
import StreamQueue.Proofs.Consumer.Initialization
import StreamQueue.Proofs.Work.Schedules
import StreamQueue.Proofs.Work.Exact
import StreamQueue.Proofs.Log.Stuck
import StreamQueue.Proofs.Consumer.Lone
import StreamQueue.Proofs.Consumer.Recovery
import StreamQueue.Proofs.Consumer.Draining
import StreamQueue.Proofs.Consumer.Scan
import StreamQueue.Proofs.Publisher.Batch
import StreamQueue.Proofs.Rehearsal.Quiet
import StreamQueue.Proofs.Rehearsal.Publisher
import StreamQueue.Proofs.Text.Identifier
import StreamQueue.Proofs.Json.Grammar
import StreamQueue.Proofs.Json.Reading
import StreamQueue.Proofs.Json.Entry
import StreamQueue.Proofs.Text.Utf8
import StreamQueue.Proofs.Redis.Listing
import StreamQueue.Proofs.Publisher.Sequence
import StreamQueue.Proofs.Publisher.Count
import StreamQueue.Proofs.Http.Status
import StreamQueue.Proofs.Log.Cap
import StreamQueue.Proofs.Http.PublishTrigger
import StreamQueue.Proofs.Rehearsal.Request
import StreamQueue.Proofs.Redis.Milliseconds
import StreamQueue.Proofs.Config.Overlay
import StreamQueue.Proofs.Http.Effects
import StreamQueue.Proofs.Redis.Items
