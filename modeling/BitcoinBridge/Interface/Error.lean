import Mathlib.Data.List.Basic

/-!
# The contract's errors

`cw-bitcoin`'s `ContractError`, with the text `thiserror` derives for each
variant from its `#[error(...)]` attribute. A variant that wraps an error of
another crate (`#[error(transparent)]` or `"{0}"` over a foreign type) carries
that error's message, which is all its `Display` forwards (`forwards`). A
failed call reaches its caller as `StdError::generic_err` of that text
(`toStdError`).
-/

namespace BitcoinBridge

/-- `ContractError`. -/
inductive ContractError where
  | std (msg : String)
  | verify (msg : String)
  | account (msg : String)
  | coins (msg : String)
  | address (msg : String)
  | bitcoin (msg : String)
  | overflow (msg : String)
  | parseOutPoint (msg : String)
  | bitcoinAddress (msg : String)
  | bitcoinHash (msg : String)
  | bitcoinPubkeyHash (msg : String)
  | bitcoinLockTime (msg : String)
  | bitcoinEncode (msg : String)
  | bitcoinFee (fee : UInt64)
  | bitcoinRecoveryScript (msg : String)
  | bip32 (msg : String)
  | checkpoint (msg : String)
  | sighash (msg : String)
  | tryFrom (msg : String)
  | app (msg : String)
  | secp (msg : String)
  | bitcoinMerkleBlockError
  | header (msg : String)
  | ibc (msg : String)
  | inputIndexOutOfBounds (index : Nat)
  | outputError (msg : String)
  | invalidDepositAddress
  | relayer (msg : String)
  | signer (msg : String)
  | io (msg : String)
  | warpRejection
  | varError (msg : String)
  | unauthorized
  | unknown
deriving DecidableEq, Repr

/-- `ContractResult<T>`. -/
abbrev ContractResult (α : Type) := Except ContractError α

/-- `ContractError`'s `Display`, from the `#[error(...)]` attributes. -/
def ContractError.toString : ContractError → String
  | .account msg => "Account Error: " ++ msg
  | .coins msg => "Coins Error: " ++ msg
  | .address msg => "Address Error: " ++ msg
  | .bitcoinFee fee => "Unable to deduct fee: " ++ fee.toNat.repr
  | .app msg => "App Error: " ++ msg
  | .bitcoinMerkleBlockError => "Could not verify merkle proof"
  | .inputIndexOutOfBounds index => "Input index: " ++ index.repr ++ " out of bounds"
  | .invalidDepositAddress => "Invalid Deposit Address"
  | .warpRejection => "Warp Rejection"
  | .unauthorized => "unauthorized"
  | .unknown => "Unknown Error"
  | .std msg | .verify msg | .bitcoin msg | .overflow msg | .parseOutPoint msg
  | .bitcoinAddress msg | .bitcoinHash msg | .bitcoinPubkeyHash msg | .bitcoinLockTime msg
  | .bitcoinEncode msg | .bitcoinRecoveryScript msg | .bip32 msg | .checkpoint msg
  | .sighash msg | .tryFrom msg | .secp msg | .header msg | .ibc msg | .outputError msg
  | .relayer msg | .signer msg | .io msg | .varError msg => msg

instance : ToString ContractError := ⟨ContractError.toString⟩

/-- `cosmwasm_std::StdError`, as far as the contract builds one. -/
inductive StdError where
  | genericErr (msg : String)
deriving DecidableEq, Repr

/-- `From<ContractError> for StdError`: `StdError::generic_err` of the error's
`Display` text. -/
def ContractError.toStdError (e : ContractError) : StdError :=
  .genericErr e.toString

/-- Whether a variant's `#[error(...)]` is `"{0}"` or `transparent`: its text
is its payload's message alone, with nothing of its own. -/
def ContractError.forwards : ContractError → Bool
  | .std _ | .verify _ | .bitcoin _ | .overflow _ | .parseOutPoint _ | .bitcoinAddress _
  | .bitcoinHash _ | .bitcoinPubkeyHash _ | .bitcoinLockTime _ | .bitcoinEncode _
  | .bitcoinRecoveryScript _ | .bip32 _ | .checkpoint _ | .sighash _ | .tryFrom _ | .secp _
  | .header _ | .ibc _ | .outputError _ | .relayer _ | .signer _ | .io _ | .varError _ => true
  | _ => false

end BitcoinBridge
