import RlmApi.JsonScanner

/-!
# `json.dumps`

`dumps` is the function with its defaults: non-ASCII characters are escaped, and NaN
and infinities are written as bare words. An integer of more than 4300 digits raises.

The decimal digits of a float are a parameter; where the point goes, and when an
exponent is written, is `repr`'s rule. What the texts come to is `accepts_render`: the
scanner accepts exactly the texts of readable values.
-/

namespace RlmApi

open JsonScanner

/-! ## The texts -/

/-- A decimal digit as a character. -/
def digitCharacter (digit : Fin 10) : CodePoint := codePoint (48 + digit.val)

def fractionText (fraction : List (Fin 10)) : Str :=
  if fraction.isEmpty then [] else codePoint 46 :: fraction.map digitCharacter

/-- An exponent with its sign. -/
def exponentText : Option (Bool × List (Fin 10)) → Str
  | none => []
  | some (below, digits) =>
    codePoint 101 :: codePoint (if below then 45 else 43) :: digits.map digitCharacter

/-- A number: whole digits, a fraction if there is one, and an exponent if there is one. -/
def numberText (negative : Bool) (whole fraction : List (Fin 10))
    (exponent : Option (Bool × List (Fin 10))) : Str :=
  (if negative then [codePoint 45] else []) ++
    (whole.map digitCharacter ++ (fractionText fraction ++ exponentText exponent))

/-- The decimal digits of a natural number. -/
def decimalDigits (n : Nat) : List (Fin 10) :=
  if n = 0 then [0] else (Nat.digits 10 n).reverse.map (Fin.ofNat 10)

/-- `int.__repr__`. -/
def intText (n : Int) : Str := numberText (decide (n < 0)) (decimalDigits n.natAbs) [] none

/-- The shortest digits that read back as a float, `0.d₁d₂… * 10 ^ point`. -/
structure ShortestDigits where
  first : Fin 10
  rest : List (Fin 10)
  point : Int
  normal : first = 0 → rest = [] ∧ point = 1

/-- An exponent, with two digits at least. -/
def exponentDigits (n : Nat) : List (Fin 10) :=
  if n < 10 then 0 :: decimalDigits n else decimalDigits n

/-- `float.__repr__` of a finite float with these digits. -/
def finiteText (negative : Bool) (digits : ShortestDigits) : Str :=
  if digits.point ≤ -4 ∨ 16 < digits.point then
    numberText negative [digits.first] digits.rest
      (some (decide (digits.point < 1), exponentDigits (digits.point - 1).natAbs))
  else if digits.point ≤ 0 then
    numberText negative [0]
      (List.replicate digits.point.natAbs 0 ++ digits.first :: digits.rest) none
  else if digits.point.toNat ≤ digits.rest.length then
    numberText negative ((digits.first :: digits.rest).take digits.point.toNat)
      ((digits.first :: digits.rest).drop digits.point.toNat) none
  else
    numberText negative (digits.first :: digits.rest ++
      List.replicate (digits.point.toNat - 1 - digits.rest.length) 0) [0] none

/-- The text of a float; NaN and infinities are not JSON. -/
def floatText (shortest : ℚ → ShortestDigits) : PyFloat → Str
  | .finite value => finiteText (decide (value < 0)) (shortest |value|)
  | .nan => lit "NaN"
  | .posInf => lit "Infinity"
  | .negInf => lit "-Infinity"

/-- A hexadecimal digit. -/
def hexCharacter (digit : Nat) : CodePoint :=
  codePoint (if digit < 10 then 48 + digit else 87 + digit)

/-- `'\\u{0:04x}'.format(code)`. -/
def unicodeEscape (code : Nat) : Str :=
  [codePoint 92, codePoint 117, hexCharacter (code / 4096 % 16), hexCharacter (code / 256 % 16),
    hexCharacter (code / 16 % 16), hexCharacter (code % 16)]

/-- `ESCAPE_DCT`: the characters with an escape of two characters. -/
def shortEscapes : List (Nat × Nat) :=
  [(92, 92), (34, 34), (8, 98), (12, 102), (10, 110), (13, 114), (9, 116)]

/-- One character as `ensure_ascii` writes it. -/
def escaped (c : CodePoint) : Str :=
  match shortEscapes.lookup c.val with
  | some e => [codePoint 92, codePoint e]
  | none =>
    if 32 ≤ c.val ∧ c.val ≤ 126 then [c]
    else if c.val < 0x10000 then unicodeEscape c.val
    else unicodeEscape (0xD800 + (c.val - 0x10000) / 1024) ++
      unicodeEscape (0xDC00 + (c.val - 0x10000) % 1024)

def quoted (text : Str) : Str := codePoint 34 :: (text.flatMap escaped ++ [codePoint 34])

mutual
/-- The text of a value whose integers are short enough. -/
def Json.render (shortest : ℚ → ShortestDigits) : Json → Str
  | .null => lit "null"
  | .bool true => lit "true"
  | .bool false => lit "false"
  | .int value => intText value
  | .float value => floatText shortest value
  | .str value => quoted value
  | .arr items => codePoint 91 :: renderItems shortest [] items
  | .obj fields => codePoint 123 :: renderFields shortest [] fields

/-- Items with what separates the first from what is before it, and the bracket. -/
def renderItems (shortest : ℚ → ShortestDigits) (separator : Str) : List Json → Str
  | [] => [codePoint 93]
  | item :: rest => separator ++ item.render shortest ++ renderItems shortest (lit ", ") rest

def renderFields (shortest : ℚ → ShortestDigits) (separator : Str) : List (Str × Json) → Str
  | [] => [codePoint 125]
  | (name, value) :: rest =>
    separator ++ quoted name ++ lit ": " ++ value.render shortest ++
      renderFields shortest (lit ", ") rest
end

/-- `json.dumps`. -/
def dumps (shortest : ℚ → ShortestDigits) (value : Json) : Except PyError Str :=
  if value.convertible then .ok (value.render shortest)
  else .error tooManyDigits

/-! ## What the scanner reads -/

/-- No NUL, and surrogates in pairs only. -/
def paired : Str → Bool
  | [] => true
  | c :: rest =>
    if c.val = 0 ∨ isLow c.val = true then false
    else if isHigh c.val = false then paired rest
    else
      match rest with
      | [] => false
      | d :: rest => isLow d.val && paired rest

/-- A leaf whose text is JSON. -/
def readable : Json → Bool
  | .float value => value.isFinite
  | .str value => paired value
  | _ => true

/-! ### Strings -/

theorem hexValue_hexCharacter {digit : Nat} (small : digit < 16) :
    hexValue (hexCharacter digit) = some digit := by
  have all : ∀ digit : Fin 16, hexValue (hexCharacter digit.val) = some digit.val := by
    decide +kernel
  exact all ⟨digit, small⟩

theorem hexCode_hexCharacter {code : Nat} (small : code < 0x10000) :
    hexCode (hexCharacter (code / 4096 % 16)) (hexCharacter (code / 256 % 16))
      (hexCharacter (code / 16 % 16)) (hexCharacter (code % 16)) = some code := by
  have modulo : ∀ n : Nat, n % 16 < 16 := fun n => Nat.mod_lt n (by decide)
  simp only [hexCode, hexValue_hexCharacter (modulo _), Option.some.injEq]
  omega

/-- The escape of a low surrogate, and the rest of the string. -/
def scanLow : Str → Option Str
  | s :: u :: a :: b :: c :: d :: rest =>
    if s.val = 92 ∧ u.val = 117 ∧ (hexCode a b c d).any isLow = true then scanString rest else none
  | _ => none

/-- What the scanner makes of a character by its number. -/
theorem scanString_unicodeEscape {code : Nat} (small : code < 0x10000) (text : Str) :
    scanString (unicodeEscape code ++ text) =
      if code = 0 ∨ isLow code = true then none
      else if isHigh code = false then scanString text else scanLow text := by
  rw [scanString.eq_def]
  simp only [unicodeEscape, List.cons_append, List.nil_append, hexCode_hexCharacter small]
  rfl

theorem scanLow_unicodeEscape {code : Nat} (small : code < 0x10000) (text : Str) :
    scanLow (unicodeEscape code ++ text) = if isLow code = true then scanString text else none := by
  simp only [unicodeEscape, List.cons_append, List.nil_append, scanLow]
  rw [hexCode_hexCharacter small]
  simp [codePoint]

/-- No escape begins with another character than a backslash. -/
theorem scanLow_plain {c : CodePoint} (plain : c.val ≠ 92) (text : Str) :
    scanLow (c :: text) = none := by
  unfold scanLow
  split
  · next s u a b c d rest same =>
    cases same
    simp [plain]
  · rfl

theorem scanLow_escape {e : CodePoint} (other : e.val ≠ 117) (text : Str) :
    scanLow (codePoint 92 :: e :: text) = none := by
  unfold scanLow
  split
  · next s u a b c d rest same =>
    cases same
    simp [other]
  · rfl

/-- The scanner skips what a two-character escape stands for. -/
theorem scanString_escape {e : CodePoint} (known : isEscape e = true) (other : e.val ≠ 117)
    (text : Str) : scanString (codePoint 92 :: e :: text) = scanString text := by
  rw [scanString.eq_def]
  simp [codePoint, known, other]

theorem scanString_plain {c : CodePoint} (visible : 32 ≤ c.val) (unquoted : c.val ≠ 34)
    (plain : c.val ≠ 92) (text : Str) : scanString (c :: text) = scanString text := by
  rw [scanString.eq_def]
  have low : ¬ c.val < 32 := by omega
  simp [unquoted, plain, low]

/-- What a character is written as, and of which characters that is true. -/
inductive Escape (c : CodePoint) : Str → Prop
  | short {e : CodePoint} (known : isEscape e = true) (other : e.val ≠ 117) (some_ : c.val ≠ 0)
      (ascii : c.val < 128) : Escape c [codePoint 92, e]
  | plain (visible : 32 ≤ c.val) (ascii : c.val < 128) (unquoted : c.val ≠ 34)
      (plain : c.val ≠ 92) : Escape c [c]
  | unicode (small : c.val < 0x10000) : Escape c (unicodeEscape c.val)
  | pair {high low : Nat} (large : 0x10000 ≤ c.val) (isHigh : isHigh high = true)
      (isLow : isLow low = true) : Escape c (unicodeEscape high ++ unicodeEscape low)

theorem escape_escaped (c : CodePoint) : Escape c (escaped c) := by
  have table : ∀ entry ∈ shortEscapes, isEscape (codePoint entry.2) = true ∧
      (codePoint entry.2).val ≠ 117 ∧ entry.1 ≠ 0 ∧ entry.1 < 128 := by decide +kernel
  have bounded := c.isLt
  unfold escaped
  split
  · next e found =>
    obtain ⟨before, after, listed, -⟩ := List.lookup_eq_some_iff.mp found
    have member : (c.val, e) ∈ shortEscapes := by
      rw [listed]
      exact List.mem_append_right _ List.mem_cons_self
    obtain ⟨known, other, some_, ascii⟩ := table _ member
    exact .short known other some_ ascii
  · next missing =>
    have unquoted : c.val ≠ 34 := by
      intro same
      rw [same] at missing
      cases missing
    have plain : c.val ≠ 92 := by
      intro same
      rw [same] at missing
      cases missing
    split
    · next visible =>
      exact .plain visible.1 (by omega) unquoted plain
    · split
      · next small => exact .unicode small
      · next large =>
        refine .pair (by omega) ?_ ?_
        · simp only [isHigh, Bool.and_eq_true, decide_eq_true_eq]
          omega
        · simp only [isLow, Bool.and_eq_true, decide_eq_true_eq]
          omega

/-- ASCII has no surrogates. -/
theorem no_surrogate_of_ascii {code : Nat} (ascii : code < 128) :
    isLow code = false ∧ isHigh code = false := by
  simp only [isLow, isHigh, Bool.and_eq_false_iff, decide_eq_false_iff_not]
  omega

/-- No surrogate is beyond the basic plane. -/
theorem no_surrogate_of_large {code : Nat} (large : 0x10000 ≤ code) :
    isLow code = false ∧ isHigh code = false := by
  simp only [isLow, isHigh, Bool.and_eq_false_iff, decide_eq_false_iff_not]
  omega

theorem not_isLow_of_isHigh {code : Nat} (high : isHigh code = true) : isLow code = false := by
  simp only [isHigh, Bool.and_eq_true, decide_eq_true_eq] at high
  simp only [isLow, Bool.and_eq_false_iff, decide_eq_false_iff_not]
  omega

/-- The two escapes of a character beyond the basic plane. -/
theorem scanString_pair {high low : Nat} (isHigh : isHigh high = true) (isLow : isLow low = true)
    (text : Str) :
    scanString ((unicodeEscape high ++ unicodeEscape low) ++ text) = scanString text := by
  have bounds : high < 0x10000 ∧ high ≠ 0 ∧ low < 0x10000 := by
    simp only [JsonScanner.isHigh, JsonScanner.isLow, Bool.and_eq_true, decide_eq_true_eq]
      at isHigh isLow
    omega
  rw [List.append_assoc, scanString_unicodeEscape bounds.1, scanLow_unicodeEscape bounds.2.2]
  simp [bounds.2.1, not_isLow_of_isHigh isHigh, isHigh, isLow]

/-- The scanner reads one character of the original. -/
theorem scanString_escaped (c : CodePoint) (text : Str) :
    scanString (escaped c ++ text) =
      if c.val = 0 ∨ isLow c.val = true then none
      else if isHigh c.val = false then scanString text else scanLow text := by
  have kind := escape_escaped c
  generalize escaped c = escape at kind
  cases kind with
  | @short e known other some_ ascii =>
    obtain ⟨low, high⟩ := no_surrogate_of_ascii ascii
    simp [scanString_escape known other, some_, low, high]
  | plain visible ascii unquoted plain =>
    obtain ⟨low, high⟩ := no_surrogate_of_ascii ascii
    have some_ : c.val ≠ 0 := by omega
    simp [scanString_plain visible unquoted plain, some_, low, high]
  | unicode small => exact scanString_unicodeEscape small text
  | pair large isHigh isLow =>
    obtain ⟨low, high⟩ := no_surrogate_of_large large
    have some_ : c.val ≠ 0 := by omega
    rw [scanString_pair isHigh isLow]
    simp [some_, low, high]

/-- After a high surrogate it reads a low one. -/
theorem scanLow_escaped (c : CodePoint) (text : Str) :
    scanLow (escaped c ++ text) = if isLow c.val = true then scanString text else none := by
  have kind := escape_escaped c
  generalize escaped c = escape at kind
  cases kind with
  | @short e known other some_ ascii =>
    simp [scanLow_escape other, (no_surrogate_of_ascii ascii).1]
  | plain visible ascii unquoted plain =>
    simp [scanLow_plain plain, (no_surrogate_of_ascii ascii).1]
  | unicode small => exact scanLow_unicodeEscape small text
  | @pair high low large isHigh isLow =>
    have small : high < 0x10000 := by
      simp only [JsonScanner.isHigh, Bool.and_eq_true, decide_eq_true_eq] at isHigh
      omega
    rw [List.append_assoc, scanLow_unicodeEscape small]
    simp [not_isLow_of_isHigh isHigh, (no_surrogate_of_large large).1]

theorem scanString_quote (rest : Str) : scanString (codePoint 34 :: rest) = some rest := by
  rw [scanString.eq_def]
  rfl

/-- The scanner accepts the text of a string exactly if the string is paired. -/
theorem scanString_quoted (text rest : Str) :
    scanString (text.flatMap escaped ++ codePoint 34 :: rest) =
      if paired text = true then some rest else none := by
  induction text using paired.induct with
  | case1 => exact scanString_quote rest
  | case2 c text bad =>
    have unpaired : paired (c :: text) = false := by
      rw [paired.eq_def]
      exact if_pos bad
    rw [List.flatMap_cons, List.append_assoc, scanString_escaped, if_pos bad, unpaired]
    rfl
  | case3 c text good low ih =>
    have same : paired (c :: text) = paired text := by
      rw [paired.eq_def]
      simp only [if_neg good, if_pos low]
    rw [List.flatMap_cons, List.append_assoc, scanString_escaped, if_neg good, if_pos low, ih, same]
  | case4 c good high =>
    have unpaired : paired [c] = false := by
      rw [paired.eq_def]
      simp only [if_neg good, if_neg high]
    rw [List.flatMap_cons, List.append_assoc, scanString_escaped, if_neg good, if_neg high,
      unpaired]
    exact scanLow_plain (by decide) rest
  | case5 c good high d text ih =>
    have same : paired (c :: d :: text) = (isLow d.val && paired text) := by
      rw [paired.eq_def]
      simp only [if_neg good, if_neg high]
    rw [List.flatMap_cons, List.append_assoc, scanString_escaped, if_neg good, if_neg high,
      List.flatMap_cons, List.append_assoc, scanLow_escaped, ih, same]
    cases isLow d.val <;> simp

/-! ### Numbers -/

/-- The text begins with no digit. -/
def NoDigit (text : Str) : Prop := ∀ c ∈ text.head?, isDigit c = false

/-- The text does not go on with a number. -/
structure Delimited (text : Str) : Prop where
  noDigit : NoDigit text
  noPoint : ∀ c ∈ text.head?, c.val ≠ 46
  noExponent : ∀ c ∈ text.head?, c.val ≠ 69 ∧ c.val ≠ 101

theorem digitCharacter_val (digit : Fin 10) : (digitCharacter digit).val = 48 + digit.val := by
  have bounded := digit.isLt
  simp only [digitCharacter, codePoint, Fin.val_ofNat]
  omega

theorem isDigit_digitCharacter (digit : Fin 10) : isDigit (digitCharacter digit) = true := by
  have bounded := digit.isLt
  simp only [isDigit, digitCharacter_val, Bool.and_eq_true, decide_eq_true_eq]
  omega

/-- The scanner reads all digits. -/
theorem scanDigits_digits (first : Fin 10) (digits : List (Fin 10)) {text : Str}
    (ends : NoDigit text) :
    scanDigits ((first :: digits).map digitCharacter ++ text) = some text := by
  have all : ∀ c ∈ digits.map digitCharacter, isDigit c = true := by
    intro c member
    obtain ⟨digit, -, rfl⟩ := List.mem_map.mp member
    exact isDigit_digitCharacter digit
  have stops : text.dropWhile isDigit = text := by
    cases text with
    | nil => rfl
    | cons c rest => simp [ends c rfl]
  simp [scanDigits, isDigit_digitCharacter, List.dropWhile_append_of_pos all, stops]

theorem scanWhole_digits {first : Fin 10} {digits : List (Fin 10)}
    (normal : first = 0 → digits = []) {text : Str} (ends : NoDigit text) :
    scanWhole ((first :: digits).map digitCharacter ++ text) = some text := by
  by_cases zero : first = 0
  · rw [normal zero, zero]
    rfl
  · have apart : (digitCharacter first).val ≠ 48 := by
      rw [digitCharacter_val]
      intro same
      exact zero (Fin.ext (by simpa using same))
    have whole := scanDigits_digits first digits ends
    simp only [List.map_cons, List.cons_append] at whole ⊢
    rw [scanWhole, if_neg apart, whole]

theorem scanExponent_exponentText {exponent : Option (Bool × List (Fin 10))}
    (some_ : ∀ part ∈ exponent, part.2 ≠ []) {rest : Str} (ends : Delimited rest) :
    scanExponent (exponentText exponent ++ rest) = some rest := by
  cases exponent with
  | none =>
    cases rest with
    | nil => rfl
    | cons c rest =>
      obtain ⟨lower, upper⟩ := ends.noExponent c rfl
      simp [exponentText, scanExponent, lower, upper]
  | some part =>
    obtain ⟨below, _ | ⟨first, digits⟩⟩ := part
    · exact absurd rfl (some_ _ rfl)
    · have exact_ := scanDigits_digits first digits ends.noDigit
      cases below with
      | false => exact exact_
      | true => exact exact_

/-- What comes after the whole digits is no digit. -/
theorem noDigit_exponentText (exponent : Option (Bool × List (Fin 10))) {rest : Str}
    (ends : Delimited rest) : NoDigit (exponentText exponent ++ rest) := by
  cases exponent with
  | none => exact ends.noDigit
  | some part =>
    rintro c ⟨⟩
    rfl

theorem noDigit_fractionText (fraction : List (Fin 10)) {text : Str} (ends : NoDigit text) :
    NoDigit (fractionText fraction ++ text) := by
  cases fraction with
  | nil => exact ends
  | cons first digits =>
    rintro c ⟨⟩
    rfl

theorem scanFraction_fractionText (fraction : List (Fin 10)) {text : Str} (ends : NoDigit text)
    (noPoint : ∀ c ∈ text.head?, c.val ≠ 46) :
    scanFraction (fractionText fraction ++ text) = some text := by
  cases fraction with
  | nil =>
    cases text with
    | nil => rfl
    | cons c rest =>
      simp [fractionText, scanFraction, noPoint c rfl]
  | cons first digits => exact scanDigits_digits first digits ends

/-- The scanner reads a number to its end. -/
theorem scanNumber_numberText (negative : Bool) {first : Fin 10} {digits fraction : List (Fin 10)}
    (normal : first = 0 → digits = []) {exponent : Option (Bool × List (Fin 10))}
    (some_ : ∀ part ∈ exponent, part.2 ≠ []) {rest : Str} (ends : Delimited rest) :
    scanNumber (numberText negative (first :: digits) fraction exponent ++ rest) = some rest := by
  have last := noDigit_exponentText exponent ends
  have point : ∀ c ∈ (exponentText exponent ++ rest).head?, c.val ≠ 46 := by
    cases exponent with
    | none => exact ends.noPoint
    | some part =>
      rintro c ⟨⟩
      decide
  have unsigned : skipMinus (numberText negative (first :: digits) fraction exponent ++ rest) =
      (first :: digits).map digitCharacter ++
        (fractionText fraction ++ (exponentText exponent ++ rest)) := by
    cases negative with
    | true => simp [numberText, skipMinus, codePoint]
    | false =>
      have apart : (digitCharacter first).val ≠ 45 := by
        rw [digitCharacter_val]
        omega
      simp [numberText, skipMinus, apart]
  rw [scanNumber, unsigned, scanWhole_digits normal (noDigit_fractionText fraction last),
    Option.bind_some, scanFraction_fractionText fraction last point, Option.bind_some,
    scanExponent_exponentText some_ ends]

/-- Decimal digits have no leading zero. -/
theorem decimalDigits_normal (n : Nat) :
    ∃ first digits, decimalDigits n = first :: digits ∧ (first = 0 → digits = []) := by
  by_cases zero : n = 0
  · exact ⟨0, [], by simp [decimalDigits, zero], fun _ => rfl⟩
  · have some_ : Nat.digits 10 n ≠ [] := Nat.digits_ne_nil_iff_ne_zero.mpr zero
    have top := Nat.getLast_digit_ne_zero 10 zero
    have small : (Nat.digits 10 n).getLast some_ < 10 :=
      Nat.digits_lt_base (by decide) (List.getLast_mem some_)
    refine ⟨Fin.ofNat 10 ((Nat.digits 10 n).getLast some_),
      (Nat.digits 10 n).dropLast.reverse.map (Fin.ofNat 10), ?_, fun same => ?_⟩
    · have parts := List.dropLast_append_getLast some_
      conv_lhs => rw [decimalDigits, if_neg zero, ← parts]
      simp
    · have value := congrArg Fin.val same
      simp only [Fin.val_ofNat, Fin.val_zero, Nat.mod_eq_of_lt small] at value
      exact absurd value top

theorem exponentDigits_ne_nil (n : Nat) : exponentDigits n ≠ [] := by
  obtain ⟨first, digits, same, -⟩ := decimalDigits_normal n
  unfold exponentDigits
  split <;> simp [same]

/-- The whole digits of a text that has no leading zero, or is one. -/
def IsNumber (text : Str) : Prop :=
  ∃ negative first digits fraction exponent, (first = 0 → digits = []) ∧
    (∀ part ∈ exponent, part.2 ≠ []) ∧
    text = numberText negative (first :: digits) fraction exponent

theorem isNumber_intText (n : Int) : IsNumber (intText n) := by
  obtain ⟨first, digits, same, normal⟩ := decimalDigits_normal n.natAbs
  refine ⟨decide (n < 0), first, digits, [], none, normal, ?_, ?_⟩
  · rintro part ⟨⟩
  · rw [intText, same]

theorem isNumber_finiteText (negative : Bool) (digits : ShortestDigits) :
    IsNumber (finiteText negative digits) := by
  obtain ⟨first, rest, point, normal⟩ := digits
  have none_ : ∀ part ∈ (none : Option (Bool × List (Fin 10))), part.2 ≠ [] := by
    rintro part ⟨⟩
  unfold finiteText
  split
  · refine ⟨_, _, _, _, _, fun _ => rfl, ?_, rfl⟩
    rintro part ⟨⟩
    exact exponentDigits_ne_nil _
  · split
    · exact ⟨_, _, _, _, _, fun _ => rfl, none_, rfl⟩
    · next positive =>
      have counted : point.toNat = (point.toNat - 1) + 1 := by
        dsimp only at positive
        omega
      have whole : (first :: rest).take point.toNat = first :: rest.take (point.toNat - 1) := by
        conv_lhs => rw [counted, List.take_succ_cons]
      split
      · dsimp only
        rw [whole]
        refine ⟨_, _, _, _, _, fun zero => ?_, none_, rfl⟩
        rw [(normal zero).1, List.take_nil]
      · refine ⟨_, _, _, _, _, fun zero => ?_, none_, rfl⟩
        obtain ⟨empty, one⟩ := normal zero
        simp [empty, one]

/-- A number begins with a sign or a digit. -/
theorem IsNumber.head {text : Str} (number : IsNumber text) :
    ∃ c tail, text = c :: tail ∧ (c.val = 45 ∨ isDigit c = true) := by
  obtain ⟨negative, first, digits, fraction, exponent, -, -, rfl⟩ := number
  cases negative with
  | true => exact ⟨_, _, rfl, Or.inl (by decide)⟩
  | false => exact ⟨_, _, rfl, Or.inr (isDigit_digitCharacter first)⟩

theorem IsNumber.scanned {text rest : Str} (number : IsNumber text) (ends : Delimited rest) :
    scanNumber (text ++ rest) = some rest := by
  obtain ⟨negative, first, digits, fraction, exponent, normal, some_, rfl⟩ := number
  exact scanNumber_numberText negative normal some_ ends

/-! ### Values -/

/-- No value begins with white space or a closing bracket. -/
theorem render_head (shortest : ℚ → ShortestDigits) (value : Json) :
    ∃ c tail, value.render shortest = c :: tail ∧ isJsonSpace c = false ∧ c.val ≠ 93 := by
  have number : ∀ {text}, IsNumber text →
      ∃ c tail, text = c :: tail ∧ isJsonSpace c = false ∧ c.val ≠ 93 := by
    intro text number
    obtain ⟨c, tail, same, kind⟩ := number.head
    refine ⟨c, tail, same, ?_⟩
    simp only [isDigit, Bool.and_eq_true, decide_eq_true_eq] at kind
    simp only [isJsonSpace, Bool.or_eq_false_iff, beq_eq_false_iff_ne]
    omega
  cases value with
  | null => exact ⟨_, _, rfl, by decide, by decide⟩
  | bool value => cases value <;> exact ⟨_, _, rfl, by decide, by decide⟩
  | int value => exact number (isNumber_intText value)
  | float value =>
    cases value with
    | finite value => exact number (isNumber_finiteText _ _)
    | nan | posInf | negInf => exact ⟨_, _, rfl, by decide, by decide⟩
  | str value => exact ⟨_, _, rfl, by decide, by decide⟩
  | arr items => exact ⟨_, _, rfl, by decide, by decide⟩
  | obj fields => exact ⟨_, _, rfl, by decide, by decide⟩

/-- A number is scanned as one. -/
theorem scanValue_number {text rest : Str} (number : IsNumber text) (ends : Delimited rest)
    (depth : Nat) : scanValue (depth + 1) (text ++ rest) = some rest := by
  have scanned := number.scanned ends
  obtain ⟨c, tail, rfl, kind⟩ := number.head
  simp only [isDigit, Bool.and_eq_true, decide_eq_true_eq] at kind
  have apart : c.val ≠ 34 ∧ c.val ≠ 91 ∧ c.val ≠ 123 ∧ c.val ≠ 110 ∧ c.val ≠ 116 ∧ c.val ≠ 102 := by
    omega
  have visible : isJsonSpace c = false := by
    simp only [isJsonSpace, Bool.or_eq_false_iff, beq_eq_false_iff_ne]
    omega
  obtain ⟨quote, bracket, brace, n, t, f⟩ := apart
  rw [List.cons_append] at scanned ⊢
  simp only [scanValue, skipSpace, List.dropWhile_cons, visible, Bool.false_eq_true, ↓reduceIte,
    quote, bracket, brace, n, t, f, scanned]

/-- White space before a value or a name is skipped. -/
theorem scanValue_space (depth : Nat) (text : Str) :
    scanValue depth (codePoint 32 :: text) = scanValue depth text := by
  cases depth <;> rfl

theorem scanItems_space (depth : Nat) (text : Str) :
    scanItems depth (codePoint 32 :: text) = scanItems depth text := by
  cases depth with
  | zero => rfl
  | succ depth => rw [scanItems, scanItems, scanValue_space]

theorem scanMembers_space (depth : Nat) (text : Str) :
    scanMembers depth (codePoint 32 :: text) = scanMembers depth text := by
  cases depth <;> rfl

theorem renderItems_cons (shortest : ℚ → ShortestDigits) (separator : Str) (item : Json)
    (rest : List Json) : renderItems shortest separator (item :: rest) =
      separator ++ renderItems shortest [] (item :: rest) := by
  simp [renderItems]

theorem renderFields_cons (shortest : ℚ → ShortestDigits) (separator : Str) (field : Str × Json)
    (rest : List (Str × Json)) : renderFields shortest separator (field :: rest) =
      separator ++ renderFields shortest [] (field :: rest) := by
  simp [renderFields]

theorem delimited_cons {c : CodePoint} (apart : isDigit c = false ∧ c.val ≠ 46 ∧ c.val ≠ 69 ∧
    c.val ≠ 101) (text : Str) : Delimited (c :: text) := by
  refine ⟨?_, ?_, ?_⟩
  all_goals rintro _ ⟨⟩
  · exact apart.1
  · exact apart.2.1
  · exact apart.2.2

theorem delimited_renderItems (shortest : ℚ → ShortestDigits) (items : List Json) (rest : Str) :
    Delimited (renderItems shortest (lit ", ") items ++ rest) := by
  cases items with
  | nil => exact delimited_cons (by decide) rest
  | cons item items => exact delimited_cons (by decide) _

theorem delimited_renderFields (shortest : ℚ → ShortestDigits) (fields : List (Str × Json))
    (rest : Str) : Delimited (renderFields shortest (lit ", ") fields ++ rest) := by
  cases fields with
  | nil => exact delimited_cons (by decide) rest
  | cons field fields => exact delimited_cons (by decide) _

/-- A name and its colon. -/
theorem scanName_quoted (name rest : Str) :
    scanName (quoted name ++ (lit ": " ++ rest)) =
      if paired name = true then some (codePoint 32 :: rest) else none := by
  have opened : scanName (quoted name ++ (lit ": " ++ rest)) =
      (scanString (name.flatMap escaped ++ codePoint 34 :: (lit ": " ++ rest))).bind (fun rest =>
        match skipSpace rest with
        | [] => none
        | c :: rest => if c.val = 58 then some rest else none) := by
    rw [quoted, List.cons_append, List.append_assoc]
    rfl
  rw [opened, scanString_quoted]
  split
  · rfl
  · rfl

mutual
/-- The scanner accepts the text of a value exactly if the value is readable. -/
theorem scanValue_render (shortest : ℚ → ShortestDigits) (depth : Nat) (value : Json)
    {rest : Str} (deep : (value.render shortest).length ≤ depth) (ends : Delimited rest) :
    scanValue depth (value.render shortest ++ rest) =
      if value.every readable paired = true then some rest else none := by
  obtain ⟨c, tail, rendered, visible, -⟩ := render_head shortest value
  cases depth with
  | zero => simp [rendered] at deep
  | succ depth =>
    cases value with
    | null => rfl
    | bool value => cases value <;> rfl
    | int value => exact scanValue_number (isNumber_intText value) ends depth
    | float value =>
      cases value with
      | finite value => exact scanValue_number (isNumber_finiteText _ _) ends depth
      | nan | posInf | negInf => rfl
    | str value =>
      have text : scanValue (depth + 1) (quoted value ++ rest) =
          scanString (value.flatMap escaped ++ codePoint 34 :: rest) := by
        rw [quoted, List.cons_append, List.append_assoc]
        rfl
      rw [Json.render, text, scanString_quoted]
      rfl
    | arr items =>
      have opened : scanValue (depth + 1) (codePoint 91 :: renderItems shortest [] items ++ rest) =
          scanBody 93 (scanItems depth) (renderItems shortest [] items ++ rest) := rfl
      rw [Json.render, opened, Json.every]
      cases items with
      | nil => rfl
      | cons item items =>
        rw [Json.render, List.length_cons] at deep
        rw [← scanItems_render shortest depth item items (by omega)]
        obtain ⟨c, tail, rendered, visible, open_⟩ := render_head shortest item
        simp [scanBody, renderItems, rendered, skipSpace, visible, open_]
    | obj fields =>
      have opened :
          scanValue (depth + 1) (codePoint 123 :: renderFields shortest [] fields ++ rest) =
            scanBody 125 (scanMembers depth) (renderFields shortest [] fields ++ rest) := rfl
      rw [Json.render, opened, Json.every]
      cases fields with
      | nil => rfl
      | cons field fields =>
        rw [Json.render, List.length_cons] at deep
        rw [← scanMembers_render shortest depth field fields (by omega)]
        rfl

theorem scanItems_render (shortest : ℚ → ShortestDigits) (depth : Nat) (item : Json)
    (items : List Json) {rest : Str}
    (deep : (renderItems shortest [] (item :: items)).length ≤ depth) :
    scanItems depth (renderItems shortest [] (item :: items) ++ rest) =
      if everyItem readable paired (item :: items) = true then some rest else none := by
  have first : renderItems shortest [] (item :: items) =
      item.render shortest ++ renderItems shortest (lit ", ") items := rfl
  have bracket : 1 ≤ (renderItems shortest (lit ", ") items).length := by
    cases items <;> simp [renderItems, lit]
  rw [first, List.length_append] at deep
  cases depth with
  | zero => omega
  | succ depth =>
    have ends := delimited_renderItems shortest items rest
    rw [first, scanItems, List.append_assoc,
      scanValue_render shortest depth item (by omega) ends, everyItem]
    cases item.every readable paired with
    | false => rfl
    | true =>
      simp only [↓reduceIte, Option.bind_some, Bool.true_and]
      cases items with
      | nil => rfl
      | cons next items =>
        rw [renderItems_cons, List.append_assoc]
        have comma : ∀ text, scanEnd 93 (scanItems depth) (lit ", " ++ text) =
            scanItems depth (codePoint 32 :: text) := fun _ => rfl
        have separator : (lit ", ").length = 2 := rfl
        rw [renderItems_cons, List.length_append] at deep
        rw [comma, scanItems_space, scanItems_render shortest depth next items (by omega)]

theorem scanMembers_render (shortest : ℚ → ShortestDigits) (depth : Nat) (field : Str × Json)
    (fields : List (Str × Json)) {rest : Str}
    (deep : (renderFields shortest [] (field :: fields)).length ≤ depth) :
    scanMembers depth (renderFields shortest [] (field :: fields) ++ rest) =
      if everyField readable paired (field :: fields) = true then some rest else none := by
  obtain ⟨name, value⟩ := field
  have first : renderFields shortest [] ((name, value) :: fields) = quoted name ++
      (lit ": " ++ (value.render shortest ++ renderFields shortest (lit ", ") fields)) := by
    simp [renderFields]
  have brace : 1 ≤ (renderFields shortest (lit ", ") fields).length := by
    cases fields <;> simp [renderFields, lit]
  rw [first, List.length_append, List.length_append, List.length_append] at deep
  cases depth with
  | zero => omega
  | succ depth =>
    have ends := delimited_renderFields shortest fields rest
    rw [first, scanMembers, List.append_assoc, List.append_assoc, List.append_assoc,
      scanName_quoted, everyField]
    cases paired name with
    | false => rfl
    | true =>
      simp only [↓reduceIte, Option.bind_some, Bool.true_and]
      rw [scanValue_space, scanValue_render shortest depth value (by omega) ends]
      cases value.every readable paired with
      | false => rfl
      | true =>
        simp only [↓reduceIte, Option.bind_some, Bool.true_and]
        cases fields with
        | nil => rfl
        | cons next fields =>
          rw [renderFields_cons, List.append_assoc]
          have comma : ∀ text, scanEnd 125 (scanMembers depth) (lit ", " ++ text) =
              scanMembers depth (codePoint 32 :: text) := fun _ => rfl
          have separator : (lit ", ").length = 2 := rfl
          rw [renderFields_cons, List.length_append] at deep
          rw [comma, scanMembers_space,
            scanMembers_render shortest depth next fields (by omega)]
end

/-- The recogniser accepts the text of a value exactly if the value is readable. -/
theorem accepts_render (shortest : ℚ → ShortestDigits) (value : Json) :
    accepts (value.render shortest) = value.every readable paired := by
  have ends : Delimited [] := by
    refine ⟨?_, ?_, ?_⟩
    all_goals rintro _ ⟨⟩
  have scanned := scanValue_render shortest ((value.render shortest).length + 1) value
    (Nat.le_succ _) ends
  rw [List.append_nil] at scanned
  rw [accepts, scanned]
  cases value.every readable paired <;> rfl

/-! ### What can be dumped and read -/

/-- A leaf that `json.dumps` writes as JSON. -/
def admissible (leaf : Json) : Bool := printable leaf && readable leaf

/-- A value has a text that the recogniser accepts exactly if all its leaves and keys are
admissible. -/
theorem dumps_accepted_iff (shortest : ℚ → ShortestDigits) (value : Json) :
    (∃ text, dumps shortest value = .ok text ∧ accepts text = true) ↔
      value.every admissible paired = true := by
  have parts : value.every admissible paired =
      (value.convertible && value.every readable paired) :=
    (value.every_and printable readable (fun _ => true) paired).symm
  rw [parts, Bool.and_eq_true, dumps]
  constructor
  · rintro ⟨text, dumped, accepted⟩
    split at dumped
    · next short =>
      cases dumped
      exact ⟨short, accepts_render shortest value ▸ accepted⟩
    · cases dumped
  · rintro ⟨short, reads⟩
    exact ⟨_, if_pos short, (accepts_render shortest value).trans reads⟩

end RlmApi
