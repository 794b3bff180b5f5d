import WorkloadOperator.Api.Script
import WorkloadOperator.Controller.Basic
import WorkloadOperator.Health
import WorkloadOperator.Json.Parser
import WorkloadOperator.Main
import WorkloadOperator.Pass.Reconcile
import WorkloadOperator.Proofs.Cancellation
import WorkloadOperator.Proofs.Retries
import WorkloadOperator.Proofs.Guarding
import WorkloadOperator.Proofs.Selecting
import WorkloadOperator.Proofs.Versions
import WorkloadOperator.Proofs.World
import WorkloadOperator.Rehearsal
import WorkloadOperator.Shutdown
import WorkloadOperator.Schema
import WorkloadOperator.Proofs.Ownership
import WorkloadOperator.Proofs.Providing
import WorkloadOperator.Proofs.Protocol
import WorkloadOperator.Proofs.Following
import WorkloadOperator.Proofs.Sessions
import WorkloadOperator.Proofs.Recording
import WorkloadOperator.Proofs.Racing
import WorkloadOperator.Proofs.Finishing
import WorkloadOperator.Proofs.Twins
import WorkloadOperator.Proofs.Reflecting
import WorkloadOperator.Proofs.Isolation
import WorkloadOperator.Proofs.Asking
import WorkloadOperator.Proofs.Company
import WorkloadOperator.Proofs.Course
import WorkloadOperator.Proofs.Releasing
import WorkloadOperator.Proofs.Grounds
import WorkloadOperator.Proofs.Reporting
import WorkloadOperator.Proofs.Queueing
import WorkloadOperator.Proofs.Absorbing
import WorkloadOperator.Proofs.Lingering
import WorkloadOperator.Proofs.Clearing
import WorkloadOperator.Proofs.Amending
import WorkloadOperator.Proofs.Sparing
import WorkloadOperator.Proofs.Vanishing
import WorkloadOperator.Proofs.Settling
import WorkloadOperator.Proofs.Dating
import WorkloadOperator.Proofs.Restating
import WorkloadOperator.Proofs.Serving
import WorkloadOperator.Proofs.Stopping
import WorkloadOperator.Proofs.Stamping
import WorkloadOperator.Proofs.Journaling
import WorkloadOperator.Proofs.Departing
import WorkloadOperator.Proofs.Listing
import WorkloadOperator.Proofs.Parenting
import WorkloadOperator.Proofs.Merging
import WorkloadOperator.Proofs.Charging
import WorkloadOperator.Proofs.Announcing
import WorkloadOperator.Proofs.Agreeing
