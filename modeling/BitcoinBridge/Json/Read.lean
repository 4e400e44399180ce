import BitcoinBridge.Json.Basic

/-!
# The JSON reader

`serde_json_wasm::from_slice`, the reader under `cosmwasm_std::from_json`,
taken in two stages: `Json.readPrefix` parses the value at the start of the
text into a `Json` value, which a type's `Deserialize` then visits
(`BitcoinBridge.Serde`), and `readEnd` is `Deserializer::end`, which allows
only whitespace after the value. The reader follows `serde_json_wasm`'s
deserializer: whitespace is space, line feed, tab and carriage return; a
literal name is matched character by character (`parse_ident`, which reports
`ExpectedSomeIdent` at the end of the text as at a wrong character); an
integer is an optional minus sign and then a `0` or a run of digits; a string
ends at its first unescaped quotation mark, and `\uXXXX` escapes combine
surrogate pairs.

Where the two stages part from the streaming deserializer:
* the whole value is parsed before its visitor runs, so on a text with a
  syntax error after a visitor error the model reports the syntax error;
* a value that a visitor skips (`deserialize_ignored_any`) is parsed as JSON,
  where the code scans a scalar only up to the next `,`, `}` or `]`: text
  that is no JSON value (`1.5`, `tru`) is skipped there by the code and
  rejected by the model;
* in a string, the code rejects a raw control character once the string holds
  an escape, and pairs a high surrogate with a later `\u` escape of its low
  surrogate; the model accepts the one, and wants the other at once.

The recursion is bounded by fuel, one more unit than the text has characters;
every call consumes one.
-/

namespace BitcoinBridge

/-- `parse_whitespace`: the characters skipped between tokens. -/
def isWs (c : Char) : Bool :=
  c = ' ' || c = '\n' || c = '\t' || c = '\r'

/-- Skip whitespace. -/
def skipWs : List Char → List Char
  | [] => []
  | c :: cs => if isWs c then skipWs cs else c :: cs

/-- `parse_ident`: the rest of `null`, `true` or `false`, one character at a
time; a missing character is `ExpectedSomeIdent` as a wrong one is. -/
def readIdent : List Char → List Char → Except JsonError (List Char)
  | [], cs => .ok cs
  | _ :: _, [] => .error .expectedSomeIdent
  | e :: es, c :: cs => if c = e then readIdent es cs else .error .expectedSomeIdent

/-- The value of a decimal digit. -/
def digitValue (c : Char) : Nat :=
  c.toNat - 48

/-- The digit loop of the integer parser. -/
def readDigits (acc : Nat) : List Char → Nat × List Char
  | [] => (acc, [])
  | c :: cs => if c.isDigit then readDigits (acc * 10 + digitValue c) cs else (acc, c :: cs)

/-- An integer's magnitude from its first digit `c`: a `0` stands alone, any
other digit runs on through the digits after it. -/
def readUnsigned (c : Char) (rest : List Char) : Nat × List Char :=
  if c = '0' then (0, rest) else readDigits (digitValue c) rest

/-- The value of a hexadecimal digit of a `\u` escape, in either case. -/
def hexValue (c : Char) : Option Nat :=
  if '0' ≤ c ∧ c ≤ '9' then some (c.toNat - 48)
  else if 'a' ≤ c ∧ c ≤ 'f' then some (c.toNat - 87)
  else if 'A' ≤ c ∧ c ≤ 'F' then some (c.toNat - 55)
  else none

/-- The character a one-letter escape stands for. -/
def unescapeChar (e : Char) : Option Char :=
  if e = '"' then some '"'
  else if e = '\\' then some '\\'
  else if e = '/' then some '/'
  else if e = 'b' then some '\x08'
  else if e = 'f' then some '\x0c'
  else if e = 'n' then some '\n'
  else if e = 'r' then some '\r'
  else if e = 't' then some '\t'
  else none

/-- A surrogate pair's character. -/
def surrogatePair (hi lo : Nat) : Char :=
  Char.ofNat (0x10000 + (hi - 0xD800) * 0x400 + (lo - 0xDC00))

/-- Where the unescaping loop is inside a string body. `high` is a high
surrogate read by the escape before, which the current escape must complete. -/
inductive StrState where
  | plain
  | escape (high : Option Nat)
  | unicode (high : Option Nat) (code : Nat) (left : Nat)
  | lowNeeded (hi : Nat)
deriving DecidableEq, Repr

/-- The last hexadecimal digit of a `\u` escape: its code unit is a character,
the high half of a surrogate pair, or the low half completing one. -/
def finishUnicode (high : Option Nat) (code : Nat) :
    Except JsonError (Option (Option Char × StrState)) :=
  match high with
  | none =>
    if code < 0xD800 ∨ 0xE000 ≤ code then .ok (some (some (Char.ofNat code), .plain))
    else if code < 0xDC00 then .ok (some (none, .lowNeeded code))
    else .error .invalidUnicodeCodePoint
  | some hi =>
    if 0xDC00 ≤ code ∧ code < 0xE000 then .ok (some (some (surrogatePair hi code), .plain))
    else .error .invalidUnicodeCodePoint

/-- One character of a string body: `none` at the closing quotation mark,
otherwise the character it completes, if any, and the next state. -/
def strStep : StrState → Char → Except JsonError (Option (Option Char × StrState))
  | .plain, c =>
    if c = '"' then .ok none
    else if c = '\\' then .ok (some (none, .escape none))
    else .ok (some (some c, .plain))
  | .escape high, c =>
    if c = 'u' then .ok (some (none, .unicode high 0 4))
    else
      match high, unescapeChar c with
      | none, some u => .ok (some (some u, .plain))
      | none, none => .error .invalidEscape
      | some _, _ => .error .invalidUnicodeCodePoint
  | .unicode high code left, c =>
    match hexValue c with
    | none => .error .invalidEscape
    | some h =>
      if left ≤ 1 then finishUnicode high (code * 16 + h)
      else .ok (some (none, .unicode high (code * 16 + h) (left - 1)))
  | .lowNeeded hi, c =>
    if c = '\\' then .ok (some (none, .escape (some hi)))
    else .error .invalidUnicodeCodePoint

/-- Put a decoded character in front of the rest of a string body. -/
def consChar (c : Char) (r : Except JsonError (List Char × List Char)) :
    Except JsonError (List Char × List Char) :=
  r.map fun (s, rest) => (c :: s, rest)

/-- `parse_str` and its unescaping, from state `st`: the characters of a
string up to its closing quotation mark, and the text after that mark. -/
def readStringBody : StrState → List Char → Except JsonError (List Char × List Char)
  | _, [] => .error .eofWhileParsingString
  | st, c :: cs =>
    match strStep st c with
    | .error e => .error e
    | .ok none => .ok ([], cs)
    | .ok (some (none, st)) => readStringBody st cs
    | .ok (some (some u, st)) => consChar u (readStringBody st cs)

/-- `parse_object_colon`: the colon between a key and its value. -/
def readColon (cs : List Char) : Except JsonError (List Char) :=
  match skipWs cs with
  | ':' :: rest => .ok rest
  | [] => .error .eofWhileParsingObject
  | _ => .error .expectedColon

mutual

/-- One JSON value, and the text after it. -/
def readValue : Nat → List Char → Except JsonError (Json × List Char)
  | 0, _ => .error .recursionLimitExceeded
  | fuel + 1, cs =>
    match skipWs cs with
    | [] => .error .eofWhileParsingValue
    | 'n' :: rest => (fun r => (.null, r)) <$> readIdent ['u', 'l', 'l'] rest
    | 't' :: rest => (fun r => (.bool true, r)) <$> readIdent ['r', 'u', 'e'] rest
    | 'f' :: rest => (fun r => (.bool false, r)) <$> readIdent ['a', 'l', 's', 'e'] rest
    | '"' :: rest => (fun (s, r) => (.str ⟨s⟩, r)) <$> readStringBody .plain rest
    | '[' :: rest =>
      match skipWs rest with
      | ']' :: rest => .ok (.arr [], rest)
      | [] => .error .eofWhileParsingList
      | _ => do
        let (e, r) ← readValue fuel rest
        let (es, r) ← readElemsTail fuel r
        return (.arr (e :: es), r)
    | '{' :: rest =>
      match skipWs rest with
      | '}' :: rest => .ok (.obj [], rest)
      | '"' :: rest => do
        let (k, r) ← readStringBody .plain rest
        let r ← readColon r
        let (v, r) ← readValue fuel r
        let (ms, r) ← readMembersTail fuel r
        return (.obj ((⟨k⟩, v) :: ms), r)
      | [] => .error .eofWhileParsingObject
      | _ => .error .keyMustBeAString
    | '-' :: c :: rest =>
      if c.isDigit then
        let (n, r) := readUnsigned c rest
        .ok (.neg n, r)
      else .error .invalidNumber
    | ['-'] => .error .invalidNumber
    | c :: rest =>
      if c.isDigit then
        let (n, r) := readUnsigned c rest
        .ok (.num n, r)
      else .error .expectedSomeValue

/-- The elements of an array after its first one, and the text after the
closing bracket. -/
def readElemsTail : Nat → List Char → Except JsonError (List Json × List Char)
  | 0, _ => .error .recursionLimitExceeded
  | fuel + 1, cs =>
    match skipWs cs with
    | ']' :: rest => .ok ([], rest)
    | ',' :: rest =>
      match skipWs rest with
      | ']' :: _ => .error .trailingComma
      | _ => do
        let (e, r) ← readValue fuel rest
        let (es, r) ← readElemsTail fuel r
        return (e :: es, r)
    | [] => .error .eofWhileParsingList
    | _ => .error .expectedListCommaOrEnd

/-- The members of an object after its first one, and the text after the
closing brace. -/
def readMembersTail : Nat → List Char → Except JsonError (List (String × Json) × List Char)
  | 0, _ => .error .recursionLimitExceeded
  | fuel + 1, cs =>
    match skipWs cs with
    | '}' :: rest => .ok ([], rest)
    | ',' :: rest =>
      match skipWs rest with
      | '"' :: rest => do
        let (k, r) ← readStringBody .plain rest
        let r ← readColon r
        let (v, r) ← readValue fuel r
        let (ms, r) ← readMembersTail fuel r
        return ((⟨k⟩, v) :: ms, r)
      | '}' :: _ => .error .trailingComma
      | [] => .error .eofWhileParsingValue
      | _ => .error .keyMustBeAString
    | [] => .error .eofWhileParsingObject
    | _ => .error .expectedObjectCommaOrEnd

end

/-- The value at the start of a text, and the text after it. -/
def Json.readPrefix (cs : List Char) : Except JsonError (Json × List Char) :=
  readValue (cs.length + 1) cs

/-- `Deserializer::end`: nothing but whitespace after the value. -/
def readEnd (rest : List Char) : Except JsonError Unit :=
  match skipWs rest with
  | [] => .ok ()
  | _ => .error .trailingCharacters

end BitcoinBridge
