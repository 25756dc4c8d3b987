import RlmApi.PythonValues

/-!
# The JSON texts that PostgreSQL accepts

A recogniser for the texts of RFC 8259 as an input of type `jsonb`: it accepts no
escape of NUL, and an escaped surrogate only as the half of a pair. Every scanner
takes a text and returns what is left of it after the longest thing it accepts.

The recogniser of values descends at most as often as it is told to; a text is
never deeper than it is long.
-/

namespace RlmApi.JsonScanner

/-- The white space of RFC 8259. -/
def isJsonSpace (c : CodePoint) : Bool := c.val == 32 || c.val == 9 || c.val == 10 || c.val == 13

def skipSpace (text : Str) : Str := text.dropWhile isJsonSpace

/-! ## Numbers -/

def isDigit (c : CodePoint) : Bool := 48 ≤ c.val && c.val ≤ 57

/-- One digit or more. -/
def scanDigits : Str → Option Str
  | [] => none
  | c :: rest => if isDigit c then some (rest.dropWhile isDigit) else none

/-- Digits without a leading zero, or one zero. -/
def scanWhole : Str → Option Str
  | [] => none
  | c :: rest => if c.val = 48 then some rest else scanDigits (c :: rest)

def scanFraction : Str → Option Str
  | [] => some []
  | c :: rest => if c.val = 46 then scanDigits rest else some (c :: rest)

def skipSign : Str → Str
  | [] => []
  | c :: rest => if c.val = 43 ∨ c.val = 45 then rest else c :: rest

def scanExponent : Str → Option Str
  | [] => some []
  | c :: rest => if c.val = 69 ∨ c.val = 101 then scanDigits (skipSign rest) else some (c :: rest)

def skipMinus : Str → Str
  | [] => []
  | c :: rest => if c.val = 45 then rest else c :: rest

def scanNumber (text : Str) : Option Str :=
  ((scanWhole (skipMinus text)).bind scanFraction).bind scanExponent

/-! ## Strings -/

def hexValue (c : CodePoint) : Option Nat :=
  if 48 ≤ c.val ∧ c.val ≤ 57 then some (c.val - 48)
  else if 65 ≤ c.val ∧ c.val ≤ 70 then some (c.val - 55)
  else if 97 ≤ c.val ∧ c.val ≤ 102 then some (c.val - 87)
  else none

/-- The number that four hexadecimal digits denote. -/
def hexCode (a b c d : CodePoint) : Option Nat :=
  match hexValue a, hexValue b, hexValue c, hexValue d with
  | some a, some b, some c, some d => some (((a * 16 + b) * 16 + c) * 16 + d)
  | _, _, _, _ => none

def isHigh (code : Nat) : Bool := 0xD800 ≤ code && code ≤ 0xDBFF

def isLow (code : Nat) : Bool := 0xDC00 ≤ code && code ≤ 0xDFFF

/-- The characters that may follow a backslash, but for `u`. -/
def isEscape (c : CodePoint) : Bool :=
  c.val == 34 || c.val == 92 || c.val == 47 || c.val == 98 || c.val == 102 || c.val == 110 ||
    c.val == 114 || c.val == 116

/-- The rest of a string, after its opening quote. -/
def scanString : Str → Option Str
  | [] => none
  | c :: rest =>
    if c.val = 34 then some rest
    else if c.val < 32 then none
    else if c.val ≠ 92 then scanString rest
    else
      match rest with
      | [] => none
      | e :: rest =>
        if e.val ≠ 117 then if isEscape e then scanString rest else none
        else
          match rest with
          | a :: b :: c :: d :: rest =>
            match hexCode a b c d with
            | none => none
            | some code =>
              if code = 0 ∨ isLow code = true then none
              else if isHigh code = false then scanString rest
              else
                match rest with
                | s :: u :: a :: b :: c :: d :: rest =>
                  if s.val = 92 ∧ u.val = 117 ∧ (hexCode a b c d).any isLow = true then
                    scanString rest
                  else none
                | _ => none
          | _ => none

/-! ## Values -/

/-- The end of an element: the closing bracket, or a comma and what comes after. -/
def scanEnd (close : Nat) (again : Str → Option Str) (text : Str) : Option Str :=
  match skipSpace text with
  | [] => none
  | c :: rest => if c.val = close then some rest else if c.val = 44 then again rest else none

/-- The elements after an opening bracket, if there are any. -/
def scanBody (close : Nat) (elements : Str → Option Str) (text : Str) : Option Str :=
  match skipSpace text with
  | [] => none
  | c :: rest => if c.val = close then some rest else elements (c :: rest)

/-- A word, of which the first letter is gone. -/
def scanWord (word text : Str) : Option Str :=
  if word.isPrefixOf text then some (text.drop word.length) else none

/-- A string and a colon. -/
def scanName (text : Str) : Option Str :=
  match skipSpace text with
  | [] => none
  | c :: rest =>
    if c.val ≠ 34 then none
    else
      (scanString rest).bind (fun rest =>
        match skipSpace rest with
        | [] => none
        | c :: rest => if c.val = 58 then some rest else none)

mutual
def scanValue : Nat → Str → Option Str
  | 0, _ => none
  | depth + 1, text =>
    match skipSpace text with
    | [] => none
    | c :: rest =>
      if c.val = 34 then scanString rest
      else if c.val = 91 then scanBody 93 (scanItems depth) rest
      else if c.val = 123 then scanBody 125 (scanMembers depth) rest
      else if c.val = 110 then scanWord (lit "ull") rest
      else if c.val = 116 then scanWord (lit "rue") rest
      else if c.val = 102 then scanWord (lit "alse") rest
      else scanNumber (c :: rest)

def scanItems : Nat → Str → Option Str
  | 0, _ => none
  | depth + 1, text => (scanValue depth text).bind (scanEnd 93 (scanItems depth))

def scanMembers : Nat → Str → Option Str
  | 0, _ => none
  | depth + 1, text =>
    ((scanName text).bind (scanValue depth)).bind (scanEnd 125 (scanMembers depth))
end

/-- The whole text is a value. -/
def accepts (text : Str) : Bool :=
  match scanValue (text.length + 1) text with
  | some rest => (skipSpace rest).isEmpty
  | none => false

/-- The recogniser accepts and refuses what it should. -/
example : accepts (lit " \x7b\"a\": [1, -0.5e+3, \"\\ud83d\\ude00\"], \"b\": null\x7d ") = true ∧
    [lit "[1,]", lit "01", lit "NaN", lit "\"\\u0000\"", lit "\"\\ud83d\"", lit "\x7b1: 2\x7d"].all
      (fun text => !accepts text) = true := by decide +kernel

end RlmApi.JsonScanner
