import Attest.Base58.Unchecked
import Attest.Chain
import Attest.Digest.Unchecked
import Attest.Main
import Attest.Merkle.Unchecked
import Attest.Proofs.Address
import Attest.Proofs.Address.Accepted
import Attest.Proofs.Address.Recased
import Attest.Proofs.Chain.Segments
import Attest.Proofs.Command.Items
import Attest.Proofs.Command.Merkle
import Attest.Proofs.Digest.Order
import Attest.Proofs.Digest.Reading
import Attest.Proofs.Fault.Report
import Attest.Proofs.Keys.Stored
import Attest.Proofs.Merkle.Commitment
import Attest.Proofs.Merkle.Completeness
import Attest.Proofs.Merkle.Decoding
import Attest.Proofs.Merkle.Filled
import Attest.Proofs.Merkle.Lookup
import Attest.Proofs.Merkle.Membership
import Attest.Proofs.Merkle.Mistyped
import Attest.Proofs.Merkle.Slices
import Attest.Proofs.Merkle.Soundness
import Attest.Proofs.Merkle.Wire
import Attest.Proofs.Miner.Overrun
import Attest.Proofs.Preferences.Environment
import Attest.Proofs.Program
import Attest.Proofs.Program.AddressCheck
import Attest.Proofs.Target.Adjustment
import Attest.Proofs.Target.Difficulty
import Attest.Settings.Document
import Attest.World
