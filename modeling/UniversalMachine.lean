import UniversalMachine.Console.Recorder
import UniversalMachine.Console.Scripted
import UniversalMachine.Main
import UniversalMachine.Proofs.Assembly
import UniversalMachine.Proofs.Atomicity
import UniversalMachine.Proofs.BetweenRuns
import UniversalMachine.Proofs.Budget
import UniversalMachine.Proofs.Capacity
import UniversalMachine.Proofs.Chunking
import UniversalMachine.Proofs.Disassembly
import UniversalMachine.Proofs.FrontEnds
import UniversalMachine.Proofs.FullLog
import UniversalMachine.Proofs.InputFlow
import UniversalMachine.Proofs.OutputFailure
import UniversalMachine.Proofs.Protocol
import UniversalMachine.Proofs.Readiness
import UniversalMachine.Proofs.Refinement
import UniversalMachine.Proofs.Reload
import UniversalMachine.Proofs.StatusMessage
import UniversalMachine.Proofs.Sticking
import UniversalMachine.Proofs.Transcript
import UniversalMachine.Session.Registry
