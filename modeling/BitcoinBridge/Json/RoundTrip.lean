import BitcoinBridge.Json.Read
import BitcoinBridge.Json.Write
import Mathlib.Data.Nat.Digits

/-!
# The reader inverts the writer

`Json.readPrefix_write_append`: for every JSON value `v`, the reader parses
the text `v.write` back to `v` and stops where it ends, whatever follows, so
long as what follows does not go on with a digit; its fuel never runs out on
the way. This is the text half of every round trip through
`cosmwasm_std::to_json_vec` and `from_json`.

The proof follows the tokens:
* a string: `serialize_str`'s escape of each character is undone by the
  unescaping loop, which is back in its plain state after it
  (`readStringBody_escapeChar`);
* an integer: core's `Nat.toDigits` writes digits with no leading zero, and
  the digit loop folds them back (`readUnsigned_writeNat`), after a minus sign
  for a negative one;
* arrays and objects: a mutual induction over values, elements and members
  (`readValue_write`), with the fuel bounded by the length of the text.

The same induction shows that the text is a conforming JSON text in one more
respect: no character of it is a raw control character (`Json.write_printable`).
-/

namespace BitcoinBridge

/-- The text starts with a decimal digit, and would extend a number before it. -/
def startsWithDigit : List Char → Bool
  | c :: _ => c.isDigit
  | [] => false

/-! ## Characters -/

theorem hexValue_hexDigit : ∀ n, n < 16 → hexValue (hexDigit n) = some n := by
  decide

theorem digitChar_isDigit : ∀ d, d < 10 →
    (Nat.digitChar d).isDigit = true ∧ digitValue (Nat.digitChar d) = d := by
  decide

/-- A digit is none of the characters the reader dispatches on. -/
theorem ne_of_isDigit {c : Char} (digit : c.isDigit = true) :
    isWs c = false ∧ c ≠ 'n' ∧ c ≠ 't' ∧ c ≠ 'f' ∧ c ≠ '"' ∧ c ≠ '[' ∧ c ≠ '{' ∧
      c ≠ '-' ∧ c ≠ ']' ∧ c ≠ '}' := by
  have ne : ∀ x : Char, x.isDigit = false → c ≠ x := fun x other same => by
    subst same
    simp [other] at digit
  simp [isWs, ne ' ' rfl, ne '\n' rfl, ne '\t' rfl, ne '\r' rfl, ne 'n' rfl, ne 't' rfl,
    ne 'f' rfl, ne '"' rfl, ne '[' rfl, ne '{' rfl, ne '-' rfl, ne ']' rfl, ne '}' rfl]

/-! ## Strings -/

theorem readStringBody_escape {e u : Char} (cs : List Char) (notU : e ≠ 'u')
    (unescaped : unescapeChar e = some u) :
    readStringBody .plain ('\\' :: e :: cs) = consChar u (readStringBody .plain cs) := by
  simp [readStringBody, strStep, notU, unescaped]

/-- The unescaping loop reads one escaped character back and returns to its
plain state. -/
theorem readStringBody_escapeChar (c : Char) (cs : List Char) :
    readStringBody .plain (escapeChar c ++ cs) = consChar c (readStringBody .plain cs) := by
  by_cases simple : c ∈ ['\\', '"', '\x08', '\t', '\n', '\x0c', '\r']
  · simp only [List.mem_cons, List.mem_singleton, List.not_mem_nil, or_false] at simple
    rcases simple with rfl | rfl | rfl | rfl | rfl | rfl | rfl <;>
      exact readStringBody_escape cs (by decide) rfl
  simp only [List.mem_cons, List.mem_singleton, List.not_mem_nil, or_false, not_or] at simple
  obtain ⟨h1, h2, h3, h4, h5, h6, h7⟩ := simple
  rw [escapeChar, if_neg h1, if_neg h2, if_neg h3, if_neg h4, if_neg h5, if_neg h6, if_neg h7]
  by_cases control : c.toNat < 0x20
  · have high := hexValue_hexDigit (c.toNat / 16) (by omega)
    have low := hexValue_hexDigit (c.toNat % 16) (by omega)
    have zero : hexValue '0' = some 0 := rfl
    have code : c.toNat / 16 * 16 + c.toNat % 16 = c.toNat := by omega
    have notSurrogate : c.toNat < 0xD800 := by omega
    rw [if_pos control]
    simp [readStringBody, strStep, zero, high, low, finishUnicode, code, notSurrogate]
  · rw [if_neg control]
    simp [readStringBody, strStep, h1, h2]

theorem readStringBody_escapeString (cs rest : List Char) :
    readStringBody .plain (escapeString cs ++ '"' :: rest) = .ok (cs, rest) := by
  induction cs with
  | nil => simp [escapeString, readStringBody, strStep]
  | cons c cs ih =>
    rw [escapeString, List.flatMap_cons, List.append_assoc, readStringBody_escapeChar,
      ← escapeString, ih]
    rfl

/-! ## Integers -/

theorem toDigitsCore_append (f n : Nat) (ds : List Char) :
    Nat.toDigitsCore 10 f n ds = Nat.toDigitsCore 10 f n [] ++ ds := by
  induction f generalizing n ds with
  | zero => rfl
  | succ f ih =>
    simp only [Nat.toDigitsCore]
    split
    · rfl
    · rw [ih, ih _ [_]]
      simp

theorem isDigit_of_mem_toDigitsCore {f n : Nat} {c : Char}
    (member : c ∈ Nat.toDigitsCore 10 f n []) : c.isDigit = true := by
  induction f generalizing n with
  | zero => simp [Nat.toDigitsCore] at member
  | succ f ih =>
    have digit := (digitChar_isDigit (n % 10) (Nat.mod_lt _ (by decide))).1
    simp only [Nat.toDigitsCore] at member
    split at member
    · simp only [List.mem_singleton] at member
      exact member ▸ digit
    · rw [toDigitsCore_append] at member
      rcases List.mem_append.mp member with inHigh | inLast
      · exact ih inHigh
      · exact (List.mem_singleton.mp inLast) ▸ digit

/-- The value the digit loop accumulates over `ds`, starting from `acc`. -/
def digitFold (acc : Nat) (ds : List Char) : Nat :=
  ds.foldl (fun acc c => acc * 10 + digitValue c) acc

theorem digitFold_toDigitsCore {f n : Nat} (enough : n < f) :
    digitFold 0 (Nat.toDigitsCore 10 f n []) = n := by
  induction f generalizing n with
  | zero => omega
  | succ f ih =>
    have last := (digitChar_isDigit (n % 10) (Nat.mod_lt _ (by decide))).2
    simp only [Nat.toDigitsCore]
    split
    · simp [digitFold, last]
      omega
    · have high := ih (n := n / 10) (by omega)
      rw [toDigitsCore_append]
      simp only [digitFold, List.foldl_append, List.foldl_cons, List.foldl_nil] at high ⊢
      rw [high, last]
      omega

/-- A positive number's first digit is not `0`. -/
theorem head_toDigitsCore {f n : Nat} (enough : n < f) (pos : 0 < n) :
    ∃ d ds, Nat.toDigitsCore 10 f n [] = d :: ds ∧ d ≠ '0' := by
  induction f generalizing n with
  | zero => omega
  | succ f ih =>
    simp only [Nat.toDigitsCore]
    split
    · refine ⟨_, _, rfl, fun zero => ?_⟩
      have value := (digitChar_isDigit (n % 10) (Nat.mod_lt _ (by decide))).2
      rw [zero] at value
      simp [digitValue] at value
      omega
    · obtain ⟨d, ds, first, nonzero⟩ := ih (n := n / 10) (by omega) (by omega)
      rw [toDigitsCore_append, first]
      exact ⟨d, ds ++ _, rfl, nonzero⟩

theorem readDigits_append (acc : Nat) (ds rest : List Char)
    (digits : ∀ c ∈ ds, c.isDigit = true) (stop : startsWithDigit rest = false) :
    readDigits acc (ds ++ rest) = (digitFold acc ds, rest) := by
  induction ds generalizing acc with
  | nil =>
    cases rest with
    | nil => rfl
    | cons c cs => simp_all [readDigits, startsWithDigit, digitFold]
  | cons c cs ih =>
    rw [List.cons_append, readDigits, if_pos (digits c (List.mem_cons_self c cs)),
      ih _ (fun d member => digits d (List.mem_cons_of_mem _ member))]
    rfl

theorem isDigit_of_mem_writeNat {n : Nat} {c : Char} (member : c ∈ writeNat n) :
    c.isDigit = true :=
  isDigit_of_mem_toDigitsCore member

/-- The integer parser reads a written magnitude back from its first digit,
and stops where it ends. -/
theorem readUnsigned_writeNat (n : Nat) (rest : List Char) (stop : startsWithDigit rest = false) :
    ∃ c t, writeNat n ++ rest = c :: t ∧ c.isDigit = true ∧ readUnsigned c t = (n, rest) := by
  rcases Nat.eq_zero_or_pos n with rfl | pos
  · exact ⟨'0', rest, rfl, rfl, rfl⟩
  · obtain ⟨d, ds, first, nonzero⟩ := head_toDigitsCore (Nat.lt_succ_self n) pos
    have digits : ∀ c ∈ ds, c.isDigit = true := fun c member =>
      isDigit_of_mem_toDigitsCore (first ▸ List.mem_cons_of_mem d member)
    have value := digitFold_toDigitsCore (Nat.lt_succ_self n)
    rw [first] at value
    refine ⟨d, ds ++ rest, by rw [writeNat, Nat.toDigits, first, List.cons_append],
      isDigit_of_mem_toDigitsCore (first ▸ List.mem_cons_self d ds), ?_⟩
    rw [readUnsigned, if_neg nonzero, readDigits_append _ _ _ digits stop, ← value]
    simp [digitFold]

/-- A value that starts with a digit is a non-negative integer. -/
theorem readValue_digit (fuel : Nat) {c : Char} (t : List Char) (digit : c.isDigit = true) :
    readValue (fuel + 1) (c :: t) = .ok (.num (readUnsigned c t).1, (readUnsigned c t).2) := by
  obtain ⟨ws, n1, n2, n3, n4, n5, n6, n7, -, -⟩ := ne_of_isDigit digit
  simp only [readValue, skipWs, ws, Bool.false_eq_true, if_false]
  split <;> simp_all

/-- A value that starts with a minus sign and a digit is a negative integer. -/
theorem readValue_minus (fuel : Nat) {c : Char} (t : List Char) (digit : c.isDigit = true) :
    readValue (fuel + 1) ('-' :: c :: t) =
      .ok (.neg (readUnsigned c t).1, (readUnsigned c t).2) := by
  simp [readValue, skipWs, isWs, digit]

theorem writeNat_ne_nil (n : Nat) : writeNat n ≠ [] := by
  simp only [writeNat, Nat.toDigits, Nat.toDigitsCore]
  split
  · simp
  · rw [toDigitsCore_append]
    simp

/-! ## Values -/

/-- A value's text opens with a character the array and object readers take for
the start of a value. -/
theorem write_cons (v : Json) :
    ∃ c t, v.write = c :: t ∧ isWs c = false ∧ c ≠ ']' ∧ c ≠ '}' := by
  cases v with
  | num n =>
    obtain ⟨c, t, opens⟩ := List.exists_cons_of_ne_nil (writeNat_ne_nil n)
    obtain ⟨ws, -, -, -, -, -, -, -, closeBracket, closeBrace⟩ :=
      ne_of_isDigit (isDigit_of_mem_writeNat (opens ▸ List.mem_cons_self c t))
    exact ⟨c, t, opens, ws, closeBracket, closeBrace⟩
  | neg n => exact ⟨_, _, rfl, rfl, by decide, by decide⟩
  | bool b => cases b <;> exact ⟨_, _, rfl, rfl, by decide, by decide⟩
  | arr es => cases es <;> exact ⟨_, _, rfl, rfl, by decide, by decide⟩
  | obj ms =>
    cases ms with
    | nil => exact ⟨_, _, rfl, rfl, by decide, by decide⟩
    | cons m ms => exact ⟨_, _, rfl, rfl, by decide, by decide⟩
  | null => exact ⟨_, _, rfl, rfl, by decide, by decide⟩
  | str s => exact ⟨_, _, rfl, rfl, by decide, by decide⟩

theorem write_length_pos (v : Json) : 0 < v.write.length := by
  obtain ⟨c, t, opens, -⟩ := write_cons v
  simp [opens]

theorem startsWithDigit_writeElemsTail (es : List Json) (rest : List Char) :
    startsWithDigit (Json.writeElemsTail es ++ rest) = false := by
  cases es <;> rfl

theorem startsWithDigit_writeMembersTail (ms : List (String × Json)) (rest : List Char) :
    startsWithDigit (Json.writeMembersTail ms ++ rest) = false := by
  cases ms <;> rfl

mutual

theorem readValue_write : ∀ (v : Json) (fuel : Nat) (rest : List Char),
    v.write.length ≤ fuel → startsWithDigit rest = false →
    readValue fuel (v.write ++ rest) = .ok (v, rest)
  | v, 0, _, len, _ => absurd len (by have := write_length_pos v; omega)
  | .null, fuel + 1, rest, _, _ => by simp [Json.write, readValue, skipWs, isWs, readIdent]
  | .bool true, fuel + 1, rest, _, _ => by simp [Json.write, readValue, skipWs, isWs, readIdent]
  | .bool false, fuel + 1, rest, _, _ => by simp [Json.write, readValue, skipWs, isWs, readIdent]
  | .num n, fuel + 1, rest, _, stop => by
    obtain ⟨c, t, split, digit, read⟩ := readUnsigned_writeNat n rest stop
    rw [Json.write, split, readValue_digit fuel t digit, read]
  | .neg n, fuel + 1, rest, _, stop => by
    obtain ⟨c, t, split, digit, read⟩ := readUnsigned_writeNat n rest stop
    rw [Json.write, List.cons_append, split, readValue_minus fuel t digit, read]
  | .str s, fuel + 1, rest, _, _ => by
    simp [Json.write, writeString, readValue, skipWs, isWs, readStringBody_escapeString]
  | .arr [], fuel + 1, rest, _, _ => by simp [Json.write, readValue, skipWs, isWs]
  | .arr (e :: es), fuel + 1, rest, len, _ => by
    simp only [Json.write, List.length_cons, List.length_append] at len
    have first := readValue_write e fuel (Json.writeElemsTail es ++ rest) (by omega)
      (startsWithDigit_writeElemsTail es rest)
    have others := readElemsTail_write es fuel rest (by omega)
    obtain ⟨c, t, opens, ws, notClose, -⟩ := write_cons e
    rw [opens, List.cons_append] at first
    simp only [isWs, Bool.or_eq_false_iff, decide_eq_false_iff_not] at ws
    simp [Json.write, opens, readValue, skipWs, isWs, ws, notClose, first, others]
  | .obj [], fuel + 1, rest, _, _ => by simp [Json.write, readValue, skipWs, isWs]
  | .obj ((k, v) :: ms), fuel + 1, rest, len, _ => by
    simp only [Json.write, List.length_cons, List.length_append] at len
    have value := readValue_write v fuel (Json.writeMembersTail ms ++ rest) (by omega)
      (startsWithDigit_writeMembersTail ms rest)
    have others := readMembersTail_write ms fuel rest (by omega)
    simp [Json.write, writeString, readValue, skipWs, isWs, readStringBody_escapeString, readColon,
      value, others]

theorem readElemsTail_write : ∀ (es : List Json) (fuel : Nat) (rest : List Char),
    (Json.writeElemsTail es).length ≤ fuel →
    readElemsTail fuel (Json.writeElemsTail es ++ rest) = .ok (es, rest)
  | [], 0, _, len => by simp [Json.writeElemsTail] at len
  | _ :: _, 0, _, len => by simp [Json.writeElemsTail] at len
  | [], fuel + 1, rest, _ => by simp [Json.writeElemsTail, readElemsTail, skipWs, isWs]
  | e :: es, fuel + 1, rest, len => by
    simp only [Json.writeElemsTail, List.length_cons, List.length_append] at len
    have first := readValue_write e fuel (Json.writeElemsTail es ++ rest) (by omega)
      (startsWithDigit_writeElemsTail es rest)
    have others := readElemsTail_write es fuel rest (by omega)
    obtain ⟨c, t, opens, ws, notClose, -⟩ := write_cons e
    rw [opens, List.cons_append] at first
    simp only [isWs, Bool.or_eq_false_iff, decide_eq_false_iff_not] at ws
    simp [Json.writeElemsTail, opens, readElemsTail, skipWs, isWs, ws, notClose, first, others]

theorem readMembersTail_write : ∀ (ms : List (String × Json)) (fuel : Nat) (rest : List Char),
    (Json.writeMembersTail ms).length ≤ fuel →
    readMembersTail fuel (Json.writeMembersTail ms ++ rest) = .ok (ms, rest)
  | [], 0, _, len => by simp [Json.writeMembersTail] at len
  | _ :: _, 0, _, len => by simp [Json.writeMembersTail] at len
  | [], fuel + 1, rest, _ => by simp [Json.writeMembersTail, readMembersTail, skipWs, isWs]
  | (k, v) :: ms, fuel + 1, rest, len => by
    simp only [Json.writeMembersTail, List.length_cons, List.length_append] at len
    have value := readValue_write v fuel (Json.writeMembersTail ms ++ rest) (by omega)
      (startsWithDigit_writeMembersTail ms rest)
    have others := readMembersTail_write ms fuel rest (by omega)
    simp [Json.writeMembersTail, writeString, readMembersTail, skipWs, isWs,
      readStringBody_escapeString, readColon, value, others]

end

/-- `from_slice`'s parse reads back every value `to_vec` writes, and stops
where its text ends, unless what follows goes on with a digit, which would
continue a number. -/
theorem Json.readPrefix_write_append (v : Json) (more : List Char)
    (stop : startsWithDigit more = false) :
    Json.readPrefix (v.write ++ more) = .ok (v, more) :=
  readValue_write v _ more (by simp only [List.length_append]; omega) stop

/-! ## No raw control character

RFC 8259 forbids the characters below `U+0020` in a JSON text outside an
escape, and parsers other than the contract's reject them. The writer never
emits one: `serialize_str` escapes every control character, and every other
token is printable ASCII. -/

theorem hexDigit_printable : ∀ n < 16, 0x20 ≤ (hexDigit n).toNat := by
  decide

theorem escapeChar_printable (c : Char) : ∀ d ∈ escapeChar c, 0x20 ≤ d.toNat := by
  unfold escapeChar
  repeat'
    refine iteInduction (motive := fun l : List Char => ∀ d ∈ l, 0x20 ≤ d.toNat)
      (fun _ => ?_) fun _ => ?_
  all_goals try decide
  · simp only [List.mem_cons, List.not_mem_nil, or_false]
    rintro d (rfl | rfl | rfl | rfl | rfl | rfl)
    all_goals first | decide | exact hexDigit_printable _ (by omega)
  · simp only [List.mem_singleton]
    rintro d rfl
    omega

theorem writeString_printable (s : String) : ∀ d ∈ writeString s, 0x20 ≤ d.toNat := by
  simp only [writeString, escapeString, List.mem_cons, List.mem_append, List.mem_flatMap,
    List.mem_singleton, List.not_mem_nil, or_false, or_assoc]
  rintro d (rfl | ⟨c, -, escaped⟩ | rfl)
  exacts [by decide, escapeChar_printable c d escaped, by decide]

theorem writeNat_printable (n : Nat) : ∀ d ∈ writeNat n, 0x20 ≤ d.toNat := by
  intro d member
  have digit := isDigit_of_mem_writeNat member
  simp only [Char.isDigit, Bool.and_eq_true, decide_eq_true_eq] at digit
  exact Nat.le_trans (by decide) digit.1

mutual

/-- Every character of a written value is at or above `U+0020`. -/
theorem Json.write_printable : ∀ v : Json, ∀ d ∈ v.write, 0x20 ≤ d.toNat
  | .null => by decide
  | .bool true => by decide
  | .bool false => by decide
  | .num n => writeNat_printable n
  | .neg n => by
    simp only [Json.write, List.mem_cons]
    rintro d (rfl | digit)
    exacts [by decide, writeNat_printable n d digit]
  | .str s => writeString_printable s
  | .arr [] => by decide
  | .arr (e :: es) => by
    simp only [Json.write, List.mem_cons, List.mem_append, or_assoc]
    rintro d (rfl | inFirst | inRest)
    exacts [by decide, Json.write_printable e d inFirst, writeElemsTail_printable es d inRest]
  | .obj [] => by decide
  | .obj ((k, v) :: ms) => by
    simp only [Json.write, List.mem_cons, List.mem_append, or_assoc]
    rintro d (rfl | inKey | rfl | inValue | inRest)
    exacts [by decide, writeString_printable k d inKey, by decide,
      Json.write_printable v d inValue, writeMembersTail_printable ms d inRest]

theorem writeElemsTail_printable :
    ∀ es : List Json, ∀ d ∈ Json.writeElemsTail es, 0x20 ≤ d.toNat
  | [] => by decide
  | e :: es => by
    simp only [Json.writeElemsTail, List.mem_cons, List.mem_append, or_assoc]
    rintro d (rfl | inFirst | inRest)
    exacts [by decide, Json.write_printable e d inFirst, writeElemsTail_printable es d inRest]

theorem writeMembersTail_printable :
    ∀ ms : List (String × Json), ∀ d ∈ Json.writeMembersTail ms, 0x20 ≤ d.toNat
  | [] => by decide
  | (k, v) :: ms => by
    simp only [Json.writeMembersTail, List.mem_cons, List.mem_append, or_assoc]
    rintro d (rfl | inKey | rfl | inValue | inRest)
    exacts [by decide, writeString_printable k d inKey, by decide,
      Json.write_printable v d inValue, writeMembersTail_printable ms d inRest]

end

end BitcoinBridge
