import PrecompileBridge.Address.Checksum
import PrecompileBridge.Bridge
import PrecompileBridge.Denylist
import PrecompileBridge.Description
import PrecompileBridge.Proofs.BuiltinCall
import PrecompileBridge.Proofs.Charge
import PrecompileBridge.Proofs.Decision
import PrecompileBridge.Proofs.Denial
import PrecompileBridge.Proofs.Dispatch
import PrecompileBridge.Proofs.FirstFlaw
import PrecompileBridge.Proofs.Flags
import PrecompileBridge.Proofs.Guards
import PrecompileBridge.Proofs.Integrity
import PrecompileBridge.Proofs.Nesting
import PrecompileBridge.Proofs.ReadOnly
import PrecompileBridge.Proofs.Reading
import PrecompileBridge.Proofs.Replacement
import PrecompileBridge.Proofs.Resolution
import PrecompileBridge.Proofs.Stretch
import PrecompileBridge.Proofs.Supply
import PrecompileBridge.Proofs.Transparency
import PrecompileBridge.Proofs.Variable
import PrecompileBridge.Scenario.Session
import PrecompileBridge.Selector.Declaration
