import BitcoinBridge.Interface.Error
import BitcoinBridge.Json.RoundTrip

/-!
# What a caller learns from an error's text

A failed call reaches its caller as text: `From<ContractError> for StdError`
wraps the error's `Display` in `StdError::generic_err`. A variant whose
`#[error(...)]` has words of its own (`Account Error: {0}`, `Unable to deduct
fee: {0}`, `unauthorized`, ...) writes texts that no other such variant
writes, so its text names it. A variant whose attribute is `"{0}"` or
`transparent` writes its payload's message, which can be any text, that of a
variant with words of its own included.

Results:
* `ContractError.ofText_toString`: `ofText` reads every variant with a text of
  its own back from that text;
* `ContractError.toString_inj_of_forwards_false`: two such variants with the
  same text are the same error;
* `ContractError.toStdError_eq_iff`: the errors converted to the same
  `StdError` as one with a text of its own are that error and the forwarding
  variants whose message is its text.
-/

namespace BitcoinBridge

/-- `readDigits` reads a number's decimal digits back, up to a text that does
not go on with a digit. -/
theorem readDigits_toDigits (n : Nat) {rest : List Char} (stop : startsWithDigit rest = false) :
    readDigits 0 (Nat.toDigits 10 n ++ rest) = (n, rest) := by
  rw [readDigits_append 0 (Nat.toDigits 10 n) rest
    (fun _ member => isDigit_of_mem_writeNat member) stop]
  exact congrArg (·, rest) (digitFold_toDigitsCore (Nat.lt_succ_self n))

namespace ContractError

/-- Reads a variant with a text of its own back from its text. -/
def ofText (text : List Char) : Option ContractError :=
  ((text.dropPrefix? "Account Error: ".data).map fun msg => .account ⟨msg⟩) <|>
  ((text.dropPrefix? "Coins Error: ".data).map fun msg => .coins ⟨msg⟩) <|>
  ((text.dropPrefix? "Address Error: ".data).map fun msg => .address ⟨msg⟩) <|>
  ((text.dropPrefix? "Unable to deduct fee: ".data).map fun digits =>
    .bitcoinFee (UInt64.ofNat (readDigits 0 digits).1)) <|>
  ((text.dropPrefix? "App Error: ".data).map fun msg => .app ⟨msg⟩) <|>
  ((text.dropPrefix? "Could not verify merkle proof".data).map fun _ =>
    .bitcoinMerkleBlockError) <|>
  ((text.dropPrefix? "Input index: ".data).map fun rest =>
    .inputIndexOutOfBounds (readDigits 0 rest).1) <|>
  ((text.dropPrefix? "Invalid Deposit Address".data).map fun _ => .invalidDepositAddress) <|>
  ((text.dropPrefix? "Warp Rejection".data).map fun _ => .warpRejection) <|>
  ((text.dropPrefix? "unauthorized".data).map fun _ => .unauthorized) <|>
  ((text.dropPrefix? "Unknown Error".data).map fun _ => .unknown)

/-- A variant with a text of its own is read back from its text. -/
theorem ofText_toString {e : ContractError} (own : e.forwards = false) :
    ofText e.toString.data = some e := by
  cases e <;> simp only [forwards, reduceCtorEq] at own <;>
    simp [ofText, ContractError.toString, List.dropPrefix?]
  case bitcoinFee fee =>
    rw [← List.append_nil (Nat.toDigits 10 fee.toNat), readDigits_toDigits _ (by rfl)]
    exact UInt64.toNat.inj (UInt64.toNat_ofNat_of_lt fee.toNat_lt_size)
  case inputIndexOutOfBounds index => rw [readDigits_toDigits _ (by rfl)]

/-- Two variants with texts of their own have the same text only when they are
the same error. -/
theorem toString_inj_of_forwards_false {e e' : ContractError} (own : e.forwards = false)
    (own' : e'.forwards = false) (same : e.toString = e'.toString) : e = e' :=
  Option.some.inj ((ofText_toString own).symm.trans (same ▸ ofText_toString own'))

/-- The errors a caller cannot tell from a variant with a text of its own: the
`StdError` it is converted to comes from that error itself, and otherwise only
from a variant that forwards a message reading exactly its text. -/
theorem toStdError_eq_iff {e e' : ContractError} (own : e.forwards = false) :
    e'.toStdError = e.toStdError ↔ e' = e ∨ e'.forwards = true ∧ e'.toString = e.toString := by
  constructor
  · intro same
    have text : e'.toString = e.toString := StdError.genericErr.inj same
    cases forwards' : e'.forwards
    · exact .inl (toString_inj_of_forwards_false forwards' own text)
    · exact .inr ⟨rfl, text⟩
  · rintro (rfl | ⟨-, text⟩)
    · rfl
    · exact congrArg StdError.genericErr text

/-- `Unauthorized {}` reaches its caller as the same `StdError` as a
checkpoint error whose message is `unauthorized`. -/
theorem toStdError_eq_iff_unauthorized :
    ContractError.unauthorized.forwards = false ∧
      ((ContractError.checkpoint "unauthorized").toStdError =
          ContractError.unauthorized.toStdError ↔
        ContractError.checkpoint "unauthorized" = .unauthorized ∨
          (ContractError.checkpoint "unauthorized").forwards = true ∧
            (ContractError.checkpoint "unauthorized").toString =
              ContractError.unauthorized.toString) :=
  ⟨rfl, toStdError_eq_iff rfl⟩

end ContractError

end BitcoinBridge
