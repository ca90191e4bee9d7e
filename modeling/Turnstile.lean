import Turnstile.Json.Text
import Turnstile.Proofs.Allocation.Atomicity
import Turnstile.Proofs.Allocation.NoOvertaking
import Turnstile.Proofs.Allocation.Refinement
import Turnstile.Proofs.Allocation.Sharing
import Turnstile.Proofs.Allocation.Writes
import Turnstile.Proofs.Concurrency.Serializability
import Turnstile.Proofs.Outbox.AtMostOnce
import Turnstile.Proofs.Outbox.Attempts
import Turnstile.Proofs.Outbox.Log
import Turnstile.Proofs.Service.Contract
import Turnstile.Proofs.Simulation.Notices
import Turnstile.Shutdown
import Turnstile.Simulation.Database
import Turnstile.Simulation.Delivery
import Turnstile.Simulation.Handling
import Turnstile.Simulation.Setup
import Turnstile.Proofs.Allocation.Confinement
import Turnstile.Proofs.Allocation.Independence
import Turnstile.Proofs.Instant.Reading
import Turnstile.Proofs.Registration.Codec
import Turnstile.Proofs.Metrics.Commands
import Turnstile.Proofs.Metrics.Batches
import Turnstile.Proofs.Metrics.Agreement
import Turnstile.Proofs.Sql.Rules
import Turnstile.Proofs.Sql.Steps
import Turnstile.Proofs.Sql.Discipline
import Turnstile.Proofs.Allocation.Admission
import Turnstile.Proofs.Allocation.Filling
import Turnstile.Proofs.Dispatch.Routing
import Turnstile.Proofs.Outbox.Accounting
import Turnstile.Proofs.Store.Staging
import Turnstile.Proofs.Dispatch.Retrying
import Turnstile.Proofs.Background.Draining
import Turnstile.Proofs.Outbox.Settling
import Turnstile.Proofs.Registration.Life
import Turnstile.Proofs.Backoff
import Turnstile.Proofs.Sql.Saving
import Turnstile.Proofs.Queue.Traffic
import Turnstile.Proofs.Outbox.Expiry
