import Rollout.Batch.Overlap
import Rollout.Main
import Rollout.Proofs.Batch.Accounting
import Rollout.Proofs.Batch.Atomicity
import Rollout.Proofs.Batch.Concurrent
import Rollout.Proofs.Batch.Consistency
import Rollout.Proofs.Batch.Interruption
import Rollout.Proofs.Batch.Merging
import Rollout.Proofs.Batch.Overlap
import Rollout.Proofs.Batch.Permutation
import Rollout.Proofs.Batch.Planned
import Rollout.Proofs.Endpoint.Grammar
import Rollout.Proofs.Http.BaseUrl
import Rollout.Proofs.Http.DotSegments
import Rollout.Proofs.Order.Cycle
import Rollout.Proofs.Order.Least
import Rollout.Proofs.Order.Reordering
import Rollout.Proofs.Order.Rounds
import Rollout.Proofs.Path.AtOnce
import Rollout.Proofs.Path.Reach
import Rollout.Proofs.Reading.Declared
import Rollout.Proofs.Reading.RoundTrip
import Rollout.Proofs.Request.Body
import Rollout.Proofs.Request.Placeholders
import Rollout.Proofs.Request.Unused
import Rollout.Proofs.Request.UrlText
