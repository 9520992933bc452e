import AdmissionHooks.Json.Reader
import AdmissionHooks.Main
import AdmissionHooks.Proofs.Answers
import AdmissionHooks.Proofs.Bundle
import AdmissionHooks.Proofs.Ownership
import AdmissionHooks.Proofs.Course
import AdmissionHooks.Proofs.Deregistration
import AdmissionHooks.Proofs.Confinement
import AdmissionHooks.Proofs.Outcome
import AdmissionHooks.Proofs.Base64.RoundTrip
import AdmissionHooks.Proofs.Sent
import AdmissionHooks.Proofs.Startup
import AdmissionHooks.Proofs.Leftovers
import AdmissionHooks.Proofs.Turns
import AdmissionHooks.Proofs.Memory
import AdmissionHooks.Proofs.Settings.Resolution
import AdmissionHooks.Proofs.Recovery
import AdmissionHooks.Proofs.Reversal
import AdmissionHooks.Proofs.Blindness
import AdmissionHooks.Proofs.Modes
import AdmissionHooks.Proofs.Sources
import AdmissionHooks.Proofs.Stages
import AdmissionHooks.Proofs.Passage
import AdmissionHooks.Proofs.Indifference
import AdmissionHooks.Proofs.Wiring
import AdmissionHooks.Proofs.Replay
import AdmissionHooks.Proofs.Routine
import AdmissionHooks.Proofs.Audit
import AdmissionHooks.Proofs.Log.Lineage
import AdmissionHooks.Proofs.Trail
import AdmissionHooks.Proofs.Base64.Grammar
import AdmissionHooks.Proofs.StoredBundle
import AdmissionHooks.Proofs.Resolutions
import AdmissionHooks.Proofs.Builds
import AdmissionHooks.Proofs.Tasks
import AdmissionHooks.Proofs.Exchange
import AdmissionHooks.Proofs.Json.RoundTrip
import AdmissionHooks.Proofs.Log.Line
import AdmissionHooks.Proofs.Log.Ids
import AdmissionHooks.Proofs.Log.Levels
import AdmissionHooks.Proofs.Log.Handlers
import AdmissionHooks.Proofs.Log.Timestamps
