import Chronicle.Docker.Machine
import Chronicle.Main
import Chronicle.Printing.Session
import Chronicle.Proofs.Defects
import Chronicle.Proofs.Failures
import Chronicle.Proofs.Rounds
import Chronicle.Proofs.Tally
import Chronicle.Run.Relay
import Chronicle.Run.Restart
import Chronicle.Proofs.Ordering
import Chronicle.Proofs.Courses
import Chronicle.Proofs.Shutdown
import Chronicle.Proofs.Progress
import Chronicle.Proofs.Independence
import Chronicle.Proofs.Vigils
import Chronicle.Proofs.LineByLine
import Chronicle.Proofs.Layering
import Chronicle.Proofs.Resolution
import Chronicle.Proofs.Gate
import Chronicle.Proofs.Deadlines
import Chronicle.Proofs.Cutoffs
import Chronicle.Proofs.Decoding
import Chronicle.Proofs.Inspections
import Chronicle.Proofs.Relays
import Chronicle.Proofs.FixedWidth
import Chronicle.Proofs.Targets
import Chronicle.Proofs.Bounds
import Chronicle.Proofs.Gaps
import Chronicle.Proofs.Slots
import Chronicle.Proofs.Colors
import Chronicle.Proofs.Reassembly
import Chronicle.Proofs.Decoration
