import Mathlib.Data.List.DropRight
import Mathlib.Data.Nat.Digits.Lemmas
import Mathlib.Data.Rat.Defs
import RlmApi.KeyedTable

/-!
# Strings, JSON values and errors of the service

A Python string is a list of code points, surrogates included, so that slicing,
stripping and comparison are the list operations they are in Python. A JSON value
is what `json.loads` returns and `json.dumps` takes: integers and floats are
different, and a float may be NaN or infinite. `storable` says which strings and
JSON values PostgreSQL accepts in a `TEXT` or `JSONB` parameter.

Floats are exact rationals beside the three special values; rounding is outside
this development.
-/

namespace RlmApi

abbrev CodePoint := Fin 0x110000

abbrev Str := List CodePoint

/-- Texts are compared code point by code point. -/
instance : LawfulBEq Str := inferInstance

/-- `chr`, which is only applied to code points. -/
def codePoint (n : Nat) : CodePoint := Fin.ofNat 0x110000 n

/-- The Python string of a literal. -/
def lit (text : String) : Str := text.toList.map (fun char => codePoint char.toNat)

/-- A character is its code point. -/
theorem codePoint_injective {a b : Char} (same : codePoint a.toNat = codePoint b.toNat) :
    a = b := by
  have bounded : ∀ c : Char, c.toNat < 0x110000 := by
    intro c
    have valid := c.valid
    simp only [Char.toNat]
    rcases valid with low | high
    · omega
    · omega
  have values := congrArg Fin.val same
  simp only [codePoint, Fin.val_ofNat, Nat.mod_eq_of_lt (bounded a),
    Nat.mod_eq_of_lt (bounded b)] at values
  exact Char.toNat_inj.mp values

/-- Different literals are different strings. -/
theorem lit_injective : Function.Injective lit := by
  intro a b same
  have chars := List.map_injective_iff.mpr (fun _ _ equal => codePoint_injective equal) same
  exact String.toList_inj.mp chars

/-- Renaming keys injectively moves a lookup with them. -/
theorem lookup_map_injective {α γ δ : Type} [BEq α] [LawfulBEq α] [BEq γ] [LawfulBEq γ]
    {f : α → γ} (injective : Function.Injective f) (fields : List (α × δ)) (name : α) :
    (fields.map (fun field => (f field.1, field.2))).lookup (f name) = fields.lookup name := by
  induction fields with
  | nil => rfl
  | cons field rest ih =>
    have compared : (f name == f field.1) = (name == field.1) := by
      by_cases same : name = field.1
      · simp [same]
      · rw [beq_eq_false_iff_ne.mpr same, beq_eq_false_iff_ne.mpr (injective.ne same)]
    simp only [List.map_cons, List.lookup_cons, compared, ih]
    rfl

/-- The code points `str.isspace` accepts. -/
def isSpace (c : CodePoint) : Bool :=
  (9 ≤ c.val && c.val ≤ 13) || (28 ≤ c.val && c.val ≤ 32) || c.val == 0x85 || c.val == 0xA0 ||
    c.val == 0x1680 || (0x2000 ≤ c.val && c.val ≤ 0x200A) || c.val == 0x2028 ||
    c.val == 0x2029 || c.val == 0x202F || c.val == 0x205F || c.val == 0x3000

/-- `str.strip()`. -/
def strip (s : Str) : Str := (s.dropWhile isSpace).rdropWhile isSpace

/-- `not value.strip()`. -/
def isBlank (s : Str) : Bool := (strip s).isEmpty

/-- Trimming code points of a kind from both ends leaves nothing exactly of a string
that holds no others: otherwise the first code point that the left trim keeps is of
another kind, and the right trim keeps it too. -/
theorem trimmed_eq_nil_iff (kind : CodePoint → Bool) (s : Str) :
    (s.dropWhile kind).rdropWhile kind = [] ↔ ∀ c ∈ s, kind c = true := by
  rw [List.rdropWhile_eq_nil_iff]
  constructor
  · intro dropped
    rw [← List.dropWhile_eq_nil_iff]
    by_contra nonempty
    have kept := List.head_dropWhile_not kind nonempty
    rw [dropped _ (List.head_mem nonempty)] at kept
    exact Bool.noConfusion kept
  · intro all c member
    exact all c ((List.dropWhile_suffix kind).subset member)

/-- A string is blank exactly when it holds nothing but whitespace. -/
theorem isBlank_iff (s : Str) : isBlank s = true ↔ ∀ c ∈ s, isSpace c = true := by
  rw [isBlank, List.isEmpty_iff, strip, trimmed_eq_nil_iff]

/-- A string with a visible code point is not blank, and conversely. -/
theorem isBlank_eq_false_iff (s : Str) : isBlank s = false ↔ ∃ c ∈ s, isSpace c = false := by
  rw [← Bool.not_eq_true, isBlank_iff]
  simp

/-- Stripping a string that is not blank leaves one that is not blank: its last
code point is visible. -/
theorem not_isBlank_strip {s : Str} (nonblank : isBlank s = false) :
    isBlank (strip s) = false := by
  have nonempty : strip s ≠ [] := by
    simpa [isBlank] using nonblank
  refine (isBlank_eq_false_iff _).mpr ⟨(strip s).getLast nonempty, List.getLast_mem nonempty, ?_⟩
  have visible := List.rdropWhile_last_not isSpace (s.dropWhile isSpace) nonempty
  exact Bool.eq_false_iff.mpr visible

inductive PyFloat where
  | finite (value : ℚ)
  | nan
  | posInf
  | negInf
deriving DecidableEq

def PyFloat.isFinite : PyFloat → Bool
  | .finite _ => true
  | .nan | .posInf | .negInf => false

inductive Json where
  | null
  | bool (value : Bool)
  | int (value : Int)
  | float (value : PyFloat)
  | str (value : Str)
  | arr (items : List Json)
  | obj (fields : List (Str × Json))

/-- A code point that UTF-8 and PostgreSQL text admit: neither NUL nor a
surrogate. -/
def storableCode (c : CodePoint) : Bool := c.val != 0 && !(0xD800 ≤ c.val && c.val ≤ 0xDFFF)

/-- PostgreSQL accepts the string as `TEXT`. -/
def storableText (s : Str) : Bool := s.all storableCode

/-- A string without surrogates, as UTF-8 encodes it. -/
def isUnicode (text : Str) : Bool := text.all (fun c => !(0xD800 ≤ c.val && c.val ≤ 0xDFFF))

/-- Text that PostgreSQL accepts has no surrogates. -/
theorem isUnicode_of_storableText {text : Str} (storable : storableText text = true) :
    isUnicode text = true := by
  simp only [storableText, isUnicode, List.all_eq_true, storableCode,
    Bool.and_eq_true] at storable ⊢
  exact fun c member => (storable c member).2

mutual
/-- Every leaf and every key of a value. -/
def Json.every (leaf : Json → Bool) (key : Str → Bool) : Json → Bool
  | .arr items => everyItem leaf key items
  | .obj fields => everyField leaf key fields
  | value => leaf value

def everyItem (leaf : Json → Bool) (key : Str → Bool) : List Json → Bool
  | [] => true
  | item :: rest => item.every leaf key && everyItem leaf key rest

def everyField (leaf : Json → Bool) (key : Str → Bool) : List (Str × Json) → Bool
  | [] => true
  | (name, value) :: rest => key name && value.every leaf key && everyField leaf key rest
end

/-- The digits that `int` and `int.__repr__` convert at most. -/
def intMaxStrDigits : Nat := 4300

/-- An integer that they convert. -/
def convertibleInt (value : Int) : Bool := (Nat.digits 10 value.natAbs).length ≤ intMaxStrDigits

theorem convertibleInt_eq (value : Int) :
    convertibleInt value = decide (value.natAbs < 10 ^ intMaxStrDigits) := by
  simp [convertibleInt, Nat.digits_length_le_iff (by decide : 1 < 10)]

/-- A leaf that is no integer, or one that they convert. -/
def printable : Json → Bool
  | .int value => convertibleInt value
  | _ => true

/-- `json.dumps` and `json.loads` convert every integer in the value. -/
def Json.convertible (value : Json) : Bool := value.every printable (fun _ => true)

/-- What `json.loads` makes of the text in which a `jsonb` column gives a value back: the
value, or a `ValueError` where an integer has too many digits. -/
def Json.loads (value : Json) : Option Json := if value.convertible then some value else none

/-- A leaf that `JSONB` accepts and gives back: no NaN or infinity, no NUL and no surrogate. -/
def lossless : Json → Bool
  | .float value => value.isFinite
  | .str value => storableText value
  | _ => true

/-- A leaf that `json.dumps` writes, too. -/
def storableLeaf (leaf : Json) : Bool := printable leaf && lossless leaf

/-- PostgreSQL accepts `json.dumps` of the value as `JSONB` and gives the value back. -/
def Json.storable (value : Json) : Bool := value.every storableLeaf storableText

def storableItems (items : List Json) : Bool := everyItem storableLeaf storableText items

def storableFields (fields : List (Str × Json)) : Bool :=
  everyField storableLeaf storableText fields

mutual
theorem Json.every_and (first second : Json → Bool) (one two : Str → Bool) : (value : Json) →
    (value.every first one && value.every second two) =
      value.every (fun leaf => first leaf && second leaf) (fun name => one name && two name)
  | .null | .bool _ | .int _ | .float _ | .str _ => rfl
  | .arr items => everyItem_and first second one two items
  | .obj fields => everyField_and first second one two fields

theorem everyItem_and (first second : Json → Bool) (one two : Str → Bool) : (items : List Json) →
    (everyItem first one items && everyItem second two items) =
      everyItem (fun leaf => first leaf && second leaf) (fun name => one name && two name) items
  | [] => rfl
  | item :: rest => by
    simp only [everyItem, ← item.every_and first second one two,
      ← everyItem_and first second one two rest]
    ac_rfl

theorem everyField_and (first second : Json → Bool) (one two : Str → Bool) :
    (fields : List (Str × Json)) →
    (everyField first one fields && everyField second two fields) =
      everyField (fun leaf => first leaf && second leaf) (fun name => one name && two name) fields
  | [] => rfl
  | (name, value) :: rest => by
    simp only [everyField, ← value.every_and first second one two,
      ← everyField_and first second one two rest]
    ac_rfl
end

/-- What is stored can be read. -/
theorem Json.loads_of_storable {value : Json} (storable : value.storable = true) :
    value.loads = some value := by
  have parts : value.storable =
      (value.convertible && value.every lossless storableText) :=
    (value.every_and printable lossless (fun _ => true) storableText).symm
  rw [parts, Bool.and_eq_true] at storable
  exact if_pos storable.1

/-- Only the value itself is read. -/
theorem Json.loads_eq_some {value read : Json} (loaded : value.loads = some read) :
    value = read := by
  rw [loads, Option.ite_none_right_eq_some] at loaded
  exact Option.some.inj loaded.2

/-- `{**base, **extra}`: later values replace earlier ones in place, new keys go
to the end. -/
def mergeFields {α : Type} (base extra : List (Str × α)) : List (Str × α) :=
  extra.foldl (fun merged field => Table.putRow Prod.fst field merged) base

/-- A merged dictionary holds only entries of the two it was merged from. -/
theorem mem_mergeFields {α : Type} {base extra : List (Str × α)} {field : Str × α}
    (member : field ∈ mergeFields base extra) : field ∈ base ∨ field ∈ extra := by
  induction extra generalizing base with
  | nil => exact Or.inl member
  | cons first rest ih =>
    rcases ih member with early | late
    · rcases Table.mem_putRow early with rfl | old
      · exact Or.inr List.mem_cons_self
      · exact Or.inl old
    · exact Or.inr (List.mem_cons_of_mem first late)

/-- Merging into distinct keys keeps them distinct. -/
theorem mergeFields_distinct {α : Type} {base : List (Str × α)} (extra : List (Str × α))
    (distinct : (base.map Prod.fst).Nodup) : ((mergeFields base extra).map Prod.fst).Nodup := by
  induction extra generalizing base with
  | nil => exact distinct
  | cons field rest ih => exact ih (Table.putRow_distinct field base distinct)

/-- New and different keys go to the end, one after the other. -/
theorem mergeFields_append {α : Type} (base extra : List (Str × α))
    (distinct : ((base ++ extra).map Prod.fst).Nodup) :
    mergeFields base extra = base ++ extra := by
  induction extra generalizing base with
  | nil => exact (List.append_nil base).symm
  | cons field rest ih =>
    have apart := distinct
    rw [List.map_append, List.map_cons, List.nodup_append] at apart
    have fresh : ∀ stored ∈ base, stored.1 ≠ field.1 := fun stored member =>
      apart.2.2 _ (List.mem_map_of_mem member) _ List.mem_cons_self
    have put : Table.putRow Prod.fst field base = base ++ [field] := Table.putRow_fresh fresh
    change mergeFields (Table.putRow Prod.fst field base) rest = base ++ field :: rest
    rw [put, ih (base ++ [field]) (by rwa [List.append_assoc]), List.append_assoc]
    rfl

/-- A merged dictionary keeps the keys of its base. -/
theorem key_mem_mergeFields {α : Type} {base : List (Str × α)} (extra : List (Str × α)) {k : Str}
    (member : k ∈ base.map Prod.fst) : k ∈ (mergeFields base extra).map Prod.fst := by
  induction extra generalizing base with
  | nil => exact member
  | cons field rest ih =>
    apply ih
    rw [Table.putRow_keys]
    split
    · exact member
    · exact List.mem_append_left _ member

/-- The member of a JSON object under a key. -/
def Json.get? (name : Str) : Json → Option Json
  | .obj fields => fields.lookup name
  | _ => none

/-- A value of a `dict[str, str | int]`. -/
inductive ModelValue where
  | text (value : Str)
  | number (value : Int)
deriving DecidableEq

/-- The exceptions the modelled code raises, with the text it gives them. -/
inductive PyError where
  | valueError (message : String)
  | keyError (name : String)
  | typeError (message : String)
  /-- The driver cannot encode a parameter. -/
  | invalidArgument
  /-- The type of a column rejects a parameter. -/
  | dataError
  /-- A `CHECK` constraint rejects a row. -/
  | checkViolation (constraint : String)
deriving DecidableEq, Repr

/-- The `ValueError` of `int.__repr__`. -/
def tooManyDigits : PyError :=
  .valueError ("Exceeds the limit (4300 digits) for integer string conversion; " ++
    "use sys.set_int_max_str_digits() to increase the limit")

/-- The refusal of parameters. The driver encodes every text before it sends anything, and
has no encoding for a surrogate; the rest is refused by PostgreSQL. -/
def refusedParameters (texts : List Str) : PyError :=
  if texts.all isUnicode then .dataError else .invalidArgument

/-- A computation followed by another succeeds through an intermediate value. -/
theorem except_bind_ok_iff {ε α γ : Type} {first : Except ε α} {rest : α → Except ε γ} {out : γ} :
    (first >>= rest) = .ok out ↔ ∃ value, first = .ok value ∧ rest value = .ok out := by
  cases first <;> simp [bind, Except.bind]

theorem toOption_eq_some {ε α : Type} {result : Except ε α} {value : α} :
    result.toOption = some value ↔ result = .ok value := by
  cases result <;> simp [Except.toOption]

/-- A successful traversal relates each input to its result. -/
theorem forall₂_of_mapM_ok {ε α γ : Type} {f : α → Except ε γ} {inputs : List α}
    {outputs : List γ} (mapped : inputs.mapM f = .ok outputs) :
    List.Forall₂ (fun input output => f input = .ok output) inputs outputs := by
  induction inputs generalizing outputs with
  | nil =>
    rw [List.mapM_nil] at mapped
    cases mapped
    exact .nil
  | cons input rest ih =>
    rw [List.mapM_cons, except_bind_ok_iff] at mapped
    obtain ⟨first, computed, mapped⟩ := mapped
    obtain ⟨others, mappedRest, collected⟩ := except_bind_ok_iff.mp mapped
    cases collected
    exact .cons computed (ih mappedRest)

/-- Related lists relate each element of the first to one of the second. -/
theorem exists_of_forall₂ {α γ : Type} {related : α → γ → Prop} {inputs : List α}
    {outputs : List γ} (pairs : List.Forall₂ related inputs outputs) {input : α}
    (member : input ∈ inputs) : ∃ output ∈ outputs, related input output := by
  induction pairs with
  | nil => cases member
  | cons paired _ ih =>
    rcases List.mem_cons.mp member with rfl | inRest
    · exact ⟨_, List.mem_cons_self, paired⟩
    · obtain ⟨other, inOutputs, found⟩ := ih inRest
      exact ⟨other, List.mem_cons_of_mem _ inOutputs, found⟩

/-- Every result of a successful traversal is the result of one of its inputs. -/
theorem mem_of_mapM_ok {ε α γ : Type} {f : α → Except ε γ} {inputs : List α} {outputs : List γ}
    (mapped : inputs.mapM f = .ok outputs) {output : γ} (member : output ∈ outputs) :
    ∃ input ∈ inputs, f input = .ok output :=
  exists_of_forall₂ (List.Forall₂.flip (forall₂_of_mapM_ok mapped)) member

/-- Every input of a successful traversal has its result. -/
theorem result_of_mapM_ok {ε α γ : Type} {f : α → Except ε γ} {inputs : List α}
    {outputs : List γ} (mapped : inputs.mapM f = .ok outputs) {input : α}
    (member : input ∈ inputs) : ∃ output ∈ outputs, f input = .ok output :=
  exists_of_forall₂ (forall₂_of_mapM_ok mapped) member

end RlmApi
