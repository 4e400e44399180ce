import Mathlib.Algebra.Group.Nat.Basic
import BitcoinBridge.Crypto.Sha256
import BitcoinBridge.Interface.Error

/-!
# Deposit destinations

`checkpoint::interface`'s `Dest`: where a relayed deposit is credited, either a
local address or an IBC transfer (`IbcDest`). `Dest::to_receiver_addr` names
the account a deposit's pending credit is paid to, and
`Dest::commitment_bytes` is the commitment a deposit address binds: an
address's bytes, or the SHA-256 of an IBC receiver.

Results:
* `utf8Bytes_inj`: `str::as_bytes` is injective (UTF-8 is a prefix code);
* `commitmentBytes_eq_iff`: when two destinations share a commitment; distinct
  addresses never do.
-/

namespace BitcoinBridge

/-- The UTF-8 bytes of a string, `str::as_bytes`. -/
def utf8Bytes (s : String) : List UInt8 :=
  s.toUTF8.data.toList

/-- `cosmwasm_std::Addr`, a string the contract treats as an address. -/
structure Addr where
  val : String
deriving DecidableEq, Repr

/-- `Addr::to_string`. -/
def Addr.toString (addr : Addr) : String :=
  addr.val

/-- `Addr::as_bytes`. -/
def Addr.asBytes (addr : Addr) : List UInt8 :=
  utf8Bytes addr.val

/-! ## `str::as_bytes` is injective

`String.utf8EncodeChar` writes a code point in one to four bytes. `utf8Code`
states the same encoding over numbers, and `utf8Decode` reads one code point
back off the front of a byte list. Decoding inverts encoding, so UTF-8 is a
prefix code and two strings with the same bytes are the same string.
-/

private theorem utf8_toNat_shiftRight (x y : UInt32) :
    (x >>> y).toNat = x.toNat / 2 ^ (y.toNat % 32) := by
  show (x.toBitVec >>> (UInt32.mod y 32).toBitVec).toNat = _
  rw [BitVec.ushiftRight_eq', BitVec.toNat_ushiftRight, Nat.shiftRight_eq_div_pow]
  rfl

private theorem utf8_toNat_toUInt8 (x : UInt32) : x.toUInt8.toNat = x.toNat % 256 := by
  simp only [UInt8.toNat, UInt32.toUInt8, Nat.toUInt8, UInt8.ofNat, UInt32.toNat,
    BitVec.ofNat_toNat, BitVec.toNat_setWidth, Nat.reducePow]

private theorem utf8_le_iff (x y : UInt32) : x ≤ y ↔ x.toNat ≤ y.toNat := Iff.rfl

/-- A byte `x & (2^k - 1) | tag` of the encoding, where `tag` has none of the
low `k` bits set: the tag is added to the low `k` bits of `x`. -/
private theorem utf8_toNat_tagged (x : UInt32) (mask tag : UInt8) (k : Nat)
    (isMask : mask.toNat = 2 ^ k - 1) (k_le : k ≤ 8)
    (adds : ∀ n < 2 ^ k, n ||| tag.toNat = n + tag.toNat) :
    (x.toUInt8 &&& mask ||| tag).toNat = x.toNat % 2 ^ k + tag.toNat := by
  have low : x.toNat % 256 % 2 ^ k = x.toNat % 2 ^ k :=
    Nat.mod_mod_of_dvd _ (by simpa using Nat.pow_dvd_pow 2 k_le)
  rw [show (x.toUInt8 &&& mask ||| tag).toNat = (x.toUInt8 &&& mask).toNat ||| tag.toNat from
      BitVec.toNat_or .., UInt8.and_toNat, utf8_toNat_toUInt8, isMask,
    Nat.and_pow_two_sub_one_eq_mod, low, adds _ (Nat.mod_lt _ (Nat.two_pow_pos k))]

private theorem utf8_toNat_cont (x : UInt32) :
    (x.toUInt8 &&& 0x3f ||| 0x80).toNat = x.toNat % 64 + 128 :=
  utf8_toNat_tagged x _ _ 6 rfl (by omega) (by decide)

private theorem utf8_toNat_lead2 (x : UInt32) :
    (x.toUInt8 &&& 0x1f ||| 0xc0).toNat = x.toNat % 32 + 192 :=
  utf8_toNat_tagged x _ _ 5 rfl (by omega) (by decide)

private theorem utf8_toNat_lead3 (x : UInt32) :
    (x.toUInt8 &&& 0x0f ||| 0xe0).toNat = x.toNat % 16 + 224 :=
  utf8_toNat_tagged x _ _ 4 rfl (by omega) (by decide)

private theorem utf8_toNat_lead4 (x : UInt32) :
    (x.toUInt8 &&& 0x07 ||| 0xf0).toNat = x.toNat % 8 + 240 :=
  utf8_toNat_tagged x _ _ 3 rfl (by omega) (by decide)

/-- A character's code point is below `0x110000`. -/
theorem toNat_lt_of_char (c : Char) : c.toNat < 0x110000 := by
  rcases c.valid with lt | ⟨_, lt⟩ <;>
    simp [Char.toNat, UInt32.isValidChar, Nat.isValidChar] at * <;> omega

/-- The numbers of a code point's UTF-8 bytes. -/
def utf8Code (v : Nat) : List Nat :=
  if v ≤ 0x7f then [v]
  else if v ≤ 0x7ff then [v / 64 + 0xc0, v % 64 + 0x80]
  else if v ≤ 0xffff then [v / 4096 + 0xe0, v / 64 % 64 + 0x80, v % 64 + 0x80]
  else [v / 262144 + 0xf0, v / 4096 % 64 + 0x80, v / 64 % 64 + 0x80, v % 64 + 0x80]

/-- `String.utf8EncodeChar` writes the bytes `utf8Code` gives. -/
theorem map_toNat_utf8EncodeChar (c : Char) :
    (String.utf8EncodeChar c).map UInt8.toNat = utf8Code c.toNat := by
  have valid := toNat_lt_of_char c
  simp only [String.utf8EncodeChar, utf8Code, Char.toNat, utf8_le_iff, UInt32.reduceToNat]
    at valid ⊢
  split_ifs <;> simp only [List.map_cons, List.map_nil, List.cons.injEq, utf8_toNat_cont,
    utf8_toNat_lead2, utf8_toNat_lead3, utf8_toNat_lead4, utf8_toNat_shiftRight,
    utf8_toNat_toUInt8, and_true, UInt32.reduceToNat, Nat.reduceMod, Nat.reducePow] <;> omega

/-- Reads one code point off the front of UTF-8 bytes given as numbers. -/
def utf8Decode : List Nat → Option (Nat × List Nat)
  | [] => none
  | b0 :: rest =>
    if b0 < 0x80 then some (b0, rest)
    else if b0 < 0xe0 then
      match rest with
      | b1 :: rest => some ((b0 - 0xc0) * 64 + (b1 - 0x80), rest)
      | [] => none
    else if b0 < 0xf0 then
      match rest with
      | b1 :: b2 :: rest => some ((b0 - 0xe0) * 4096 + (b1 - 0x80) * 64 + (b2 - 0x80), rest)
      | _ => none
    else
      match rest with
      | b1 :: b2 :: b3 :: rest =>
        some ((b0 - 0xf0) * 262144 + (b1 - 0x80) * 4096 + (b2 - 0x80) * 64 + (b3 - 0x80), rest)
      | _ => none

theorem utf8Decode_utf8Code {v : Nat} (valid : v < 0x110000) (rest : List Nat) :
    utf8Decode (utf8Code v ++ rest) = some (v, rest) := by
  unfold utf8Code
  split_ifs <;> simp (disch := omega) only [List.cons_append, List.nil_append, utf8Decode,
    if_pos, if_neg, Nat.add_sub_cancel, Option.some.injEq, Prod.mk.injEq, and_true] <;> omega

/-- The UTF-8 bytes of a list of characters determine the list. -/
theorem flatMap_utf8Code_inj :
    ∀ {cs cs' : List Char}, cs.flatMap (fun c => utf8Code c.toNat) =
      cs'.flatMap (fun c => utf8Code c.toNat) → cs = cs'
  | [], [], _ => rfl
  | [], c :: _, same => by
    have decoded := congrArg utf8Decode same
    rw [List.flatMap_cons, utf8Decode_utf8Code (toNat_lt_of_char c)] at decoded
    cases decoded
  | c :: _, [], same => by
    have decoded := congrArg utf8Decode same
    rw [List.flatMap_cons, utf8Decode_utf8Code (toNat_lt_of_char c)] at decoded
    cases decoded
  | c :: _, c' :: _, same => by
    have decoded := congrArg utf8Decode same
    rw [List.flatMap_cons, List.flatMap_cons, utf8Decode_utf8Code (toNat_lt_of_char c),
      utf8Decode_utf8Code (toNat_lt_of_char c'), Option.some.injEq, Prod.mk.injEq] at decoded
    rw [← Char.ofNat_toNat c, decoded.1, Char.ofNat_toNat, flatMap_utf8Code_inj decoded.2]

/-- `str::as_bytes` is injective. -/
theorem utf8Bytes_inj {s s' : String} (same : utf8Bytes s = utf8Bytes s') : s = s' := by
  have bytes := congrArg (List.map UInt8.toNat) same
  simp only [utf8Bytes, String.toUTF8, List.map_flatMap, map_toNat_utf8EncodeChar] at bytes
  exact String.ext (flatMap_utf8Code_inj bytes)

/-- Two addresses with the same bytes are the same address. -/
theorem Addr.asBytes_inj {addr addr' : Addr} : addr.asBytes = addr'.asBytes ↔ addr = addr' :=
  ⟨fun same => congrArg Addr.mk (utf8Bytes_inj same), fun same => same ▸ rfl⟩

/-- `IbcDest`: the IBC transfer a deposit is forwarded as. -/
structure IbcDest where
  sourcePort : String
  sourceChannel : String
  receiver : String
  sender : String
  timeoutTimestamp : UInt64
  memo : String
deriving DecidableEq, Repr

/-- `Dest`. -/
inductive Dest where
  | address (addr : Addr)
  | ibc (dest : IbcDest)
deriving DecidableEq, Repr

namespace Dest

/-- `Dest::to_receiver_addr`. -/
def toReceiverAddr : Dest → String
  | .address addr => addr.toString
  | .ibc dest => dest.receiver

/-- `Dest::commitment_bytes`. -/
def commitmentBytes : Dest → ContractResult (List UInt8)
  | .address addr => .ok addr.asBytes
  | .ibc dest => .ok (sha256 (utf8Bytes dest.receiver))

/-- When two destinations share a commitment: the same address, two IBC
destinations whose receivers hash alike, or an address whose bytes are an IBC
receiver's hash. Distinct addresses never share one. -/
theorem commitmentBytes_eq_iff (d d' : Dest) :
    d.commitmentBytes = d'.commitmentBytes ↔
      (∃ addr, d = .address addr ∧ d' = .address addr) ∨
      (∃ dest dest', d = .ibc dest ∧ d' = .ibc dest' ∧
        sha256 (utf8Bytes dest.receiver) = sha256 (utf8Bytes dest'.receiver)) ∨
      ∃ addr dest, (d = .address addr ∧ d' = .ibc dest ∨ d = .ibc dest ∧ d' = .address addr) ∧
        addr.asBytes = sha256 (utf8Bytes dest.receiver) := by
  cases d <;> cases d' <;>
    simp [commitmentBytes, Addr.asBytes_inj, and_assoc, @eq_comm Addr, @eq_comm (List UInt8)]

end Dest

end BitcoinBridge
