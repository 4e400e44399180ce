import BitcoinBridge.Json.Basic

/-!
# The JSON writer

`serde_json_wasm::to_vec`, the writer under `cosmwasm_std::to_json_vec`: compact
JSON with no whitespace, members and elements in the order serde hands them
over, integers in decimal (a negative one after a minus sign), and strings
escaped as `serialize_str` escapes them. The text is a list of characters; its
UTF-8 encoding is the `Vec<u8>` the contract stores.
-/

namespace BitcoinBridge

/-- The hexadecimal digit `serialize_str` writes for a nibble. -/
def hexDigit (n : Nat) : Char :=
  if n < 10 then Char.ofNat (48 + n) else Char.ofNat (55 + n)

/-- `serialize_str` on one character: the quotation mark, the reverse solidus
and the control characters are escaped, every other character is written as
it is. -/
def escapeChar (c : Char) : List Char :=
  if c = '\\' then ['\\', '\\']
  else if c = '"' then ['\\', '"']
  else if c = '\x08' then ['\\', 'b']
  else if c = '\t' then ['\\', 't']
  else if c = '\n' then ['\\', 'n']
  else if c = '\x0c' then ['\\', 'f']
  else if c = '\r' then ['\\', 'r']
  else if c.toNat < 0x20 then
    ['\\', 'u', '0', '0', hexDigit (c.toNat / 16), hexDigit (c.toNat % 16)]
  else [c]

/-- The escaped characters of a string, without its quotation marks. -/
def escapeString (cs : List Char) : List Char :=
  cs.flatMap escapeChar

/-- `serialize_str`: a string between quotation marks. -/
def writeString (s : String) : List Char :=
  '"' :: escapeString s.data ++ ['"']

/-- An unsigned integer in decimal, as `serialize_u64` writes it. -/
def writeNat (n : Nat) : List Char :=
  Nat.toDigits 10 n

mutual

/-- The compact text of a JSON value. -/
def Json.write : Json → List Char
  | .null => ['n', 'u', 'l', 'l']
  | .bool true => ['t', 'r', 'u', 'e']
  | .bool false => ['f', 'a', 'l', 's', 'e']
  | .num n => writeNat n
  | .neg n => '-' :: writeNat n
  | .str s => writeString s
  | .arr [] => ['[', ']']
  | .arr (e :: es) => '[' :: e.write ++ Json.writeElemsTail es
  | .obj [] => ['{', '}']
  | .obj ((k, v) :: ms) => '{' :: writeString k ++ ':' :: v.write ++ Json.writeMembersTail ms

/-- The elements after the first one, each after a comma, and the closing bracket. -/
def Json.writeElemsTail : List Json → List Char
  | [] => [']']
  | e :: es => ',' :: e.write ++ Json.writeElemsTail es

/-- The members after the first one, each after a comma, and the closing brace. -/
def Json.writeMembersTail : List (String × Json) → List Char
  | [] => ['}']
  | (k, v) :: ms => ',' :: writeString k ++ ':' :: v.write ++ Json.writeMembersTail ms

end

end BitcoinBridge
