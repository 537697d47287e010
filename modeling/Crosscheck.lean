import Crosscheck.Error
import Crosscheck.Metrics
import Crosscheck.Options
import Crosscheck.Report
import Crosscheck.Toolchain
import Crosscheck.Artifacts
import Crosscheck.Child
import Crosscheck.Discovery
import Crosscheck.Files.Staging
import Crosscheck.Lookup
import Crosscheck.Machine.Image
import Crosscheck.Machine.Launching
import Crosscheck.Machine.Setup
import Crosscheck.Session
import Crosscheck.Proofs.Verdict
import Crosscheck.Proofs.Attribution
import Crosscheck.Proofs.Neutral
import Crosscheck.Proofs.Parallel
import Crosscheck.Proofs.Accounts
import Crosscheck.Proofs.Collisions
import Crosscheck.Proofs.Exit
import Crosscheck.Proofs.Leftovers
import Crosscheck.Proofs.Arrangement
import Crosscheck.Proofs.Reading
import Crosscheck.Proofs.Readiness
import Crosscheck.Proofs.Requirements
import Crosscheck.Proofs.Legs
import Crosscheck.Proofs.Orderings
import Crosscheck.Proofs.Reasons
import Crosscheck.Proofs.Recordings
import Crosscheck.Proofs.Repetitions
import Crosscheck.Proofs.Delivery
import Crosscheck.Proofs.Mismatches
import Crosscheck.Proofs.Silence
import Crosscheck.Proofs.Remainders
import Crosscheck.Proofs.Belongings
import Crosscheck.Proofs.Releases
import Crosscheck.Proofs.Sharing
import Crosscheck.Proofs.Choices
import Crosscheck.Proofs.Reproduction
import Crosscheck.Proofs.Observations
import Crosscheck.Proofs.Answers
import Crosscheck.Proofs.Overflow
