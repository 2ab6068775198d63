import TwinStack.Main
import TwinStack.Checked.Step
import TwinStack.Proofs.Demand
import TwinStack.Proofs.Execute
import TwinStack.Proofs.Faults
import TwinStack.Proofs.Runs
import TwinStack.Proofs.Rewrites
import TwinStack.Proofs.Frame
import TwinStack.Proofs.Calls
import TwinStack.Proofs.Termination
import TwinStack.Proofs.Writes
import TwinStack.Proofs.Noninterference
import TwinStack.Proofs.CheckedOperands
import TwinStack.Proofs.NoTrap
import TwinStack.Proofs.Stability
import TwinStack.Proofs.Extension
import TwinStack.Proofs.Console
import TwinStack.Proofs.Relocation
import TwinStack.Proofs.Replay
import TwinStack.Proofs.Account
import TwinStack.Proofs.DataEffects
import TwinStack.Proofs.KeepMode
import TwinStack.Proofs.ReturnMode
import TwinStack.Proofs.Layers
import TwinStack.Proofs.Transfers
import TwinStack.Proofs.Dump
import TwinStack.Proofs.Pops
import TwinStack.Proofs.DeferredPops
import TwinStack.Proofs.Peeks
