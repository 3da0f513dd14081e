import EchoProbe.Main
import EchoProbe.Proofs.Turn
import EchoProbe.Proofs.History
import EchoProbe.Proofs.Window
import EchoProbe.Proofs.Lifecycle
import EchoProbe.Proofs.Attribution
import EchoProbe.Proofs.Journey
import EchoProbe.Proofs.Course
import EchoProbe.Proofs.Halting
import EchoProbe.Proofs.Timetable
import EchoProbe.Proofs.Tally
import EchoProbe.Proofs.Interruption
import EchoProbe.Proofs.Wire
import EchoProbe.Proofs.Breakdown
import EchoProbe.Proofs.Locality
import EchoProbe.Proofs.Decoration
import EchoProbe.Proofs.Budget
import EchoProbe.Proofs.Burst
import EchoProbe.Proofs.Horizon
import EchoProbe.Proofs.Diagnosis
import EchoProbe.Proofs.Collation
import EchoProbe.Proofs.Conversion
import EchoProbe.Proofs.Likeness
import EchoProbe.Proofs.Provenance
import EchoProbe.Proofs.Numbering
import EchoProbe.Proofs.Versions
import EchoProbe.Proofs.Extraction
import EchoProbe.Proofs.Extremes
import EchoProbe.Proofs.Items
import EchoProbe.Proofs.Words
import EchoProbe.Proofs.Invocation
import EchoProbe.Proofs.Custody
import EchoProbe.Proofs.Career
