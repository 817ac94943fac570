import Signatory.Bcs.Script
import Signatory.Signer
import Signatory.Version
import Signatory.Proofs.Registration
import Signatory.Proofs.Sui.Canonical
import Signatory.Proofs.Sui.Decoding
import Signatory.Proofs.Bcs.Bijection
import Signatory.Proofs.Sui.TagEncoding
import Signatory.Proofs.Sui.TagSpelling
import Signatory.Proofs.Sui.RawTransfer
import Signatory.Proofs.Starknet.Consistency
import Signatory.Proofs.Starknet.FeltGrammar
import Signatory.Proofs.Starknet.Operands
import Signatory.Proofs.Starknet.Segments
import Signatory.Proofs.Keys.Attempts
import Signatory.Proofs.Keys.Caching
import Signatory.Proofs.Keys.Verifying
import Signatory.Proofs.Signer.Failing
import Signatory.Proofs.Signer.Lifetime
import Signatory.Proofs.Signer.OneOf
import Signatory.Proofs.Signer.Order
import Signatory.Proofs.Signer.Address
import Signatory.Proofs.Signer.Untyped
import Signatory.Proofs.Keys.Grinding
import Signatory.Proofs.Keys.Importing
import Signatory.Proofs.Sui.Identifier
import Signatory.Proofs.Bcs.Leftover
import Signatory.Proofs.Bcs.Length
import Signatory.Proofs.ChainHistory
import Signatory.Proofs.Starknet.RawHash
import Signatory.Proofs.Sui.AddressGrammar
import Signatory.Proofs.Sui.TagCut
