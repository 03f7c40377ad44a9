import Mathlib.Data.Nat.Digits

/-! # Integer parsing

`strconv.ParseInt(s, 10, bitSize)` reads an optional sign and then decimal digits only; the
value must fit in `bitSize` bits. Its digit loop, that of `ParseUint`, reports a range error
as soon as the value read so far overflows, before it looks at the characters after; any
character that is not a digit is a syntax error. The error names the input and the reason.
On the decimal text of a natural number it gives the number back when it fits.
-/

namespace DmsApi.Strconv

/-- Why a parse failed: `ErrSyntax` or `ErrRange`. -/
inductive NumErr
  | errSyntax
  | errRange
deriving DecidableEq, Repr

/-- A `*strconv.NumError`: the function, its input and the reason. -/
structure NumError where
  func : String
  num : String
  err : NumErr
deriving DecidableEq, Repr

def NumErr.error : NumErr → String
  | .errSyntax => "invalid syntax"
  | .errRange => "value out of range"

/-- `strconv.Quote`, for the characters `ParseInt` can be handed here: quotes and
backslashes are escaped, and every other character is taken as printable. -/
def quote (s : String) : String :=
  "\"" ++ String.join (s.toList.map fun c =>
    if c = '"' then "\\\"" else if c = '\\' then "\\\\" else c.toString) ++ "\""

/-- `e.Error()`. -/
def NumError.error (e : NumError) : String :=
  "strconv." ++ e.func ++ ": parsing " ++ quote e.num ++ ": " ++ e.err.error

/-- The digit loop of `ParseUint(s, 10, bitSize)`, from the value `n` read so far, with
`maxVal`, one less than `1 <<< bitSize`. -/
def parseDigits (maxVal : Nat) : List Char → Nat → Except NumErr Nat
  | [], n => .ok n
  | c :: rest, n =>
    if c.isDigit then
      let n1 := n * 10 + (c.toNat - '0'.toNat)
      if 1844674407370955162 ≤ n ∨ maxVal < n1 then .error .errRange
      else parseDigits maxVal rest n1
    else .error .errSyntax

/-- `strconv.ParseUint(s, 10, bitSize)`, returning the reason of a failure. -/
def parseUint (s : List Char) (bitSize : Nat) : Except NumErr Nat :=
  if s = [] then .error .errSyntax else parseDigits ((1 <<< bitSize) - 1) s 0

/-- `strconv.ParseInt(s, 10, bitSize)`. -/
def parseInt (s : String) (bitSize : Nat) : Except NumError Int :=
  match s.toList with
  | [] => .error ⟨"ParseInt", s, .errSyntax⟩
  | c :: rest =>
    let (neg, digits) :=
      if c = '+' then (false, rest) else if c = '-' then (true, rest) else (false, c :: rest)
    match parseUint digits bitSize with
    | .error .errSyntax => .error ⟨"ParseInt", s, .errSyntax⟩
    | result =>
      let un := match result with
        | .ok n => n
        | .error _ => (1 <<< bitSize) - 1
      let cutoff := 1 <<< (bitSize - 1)
      if !neg && cutoff ≤ un then .error ⟨"ParseInt", s, .errRange⟩
      else if neg && cutoff < un then .error ⟨"ParseInt", s, .errRange⟩
      else pure (if neg then -(un : Int) else un)

/-! ## Decimal text -/

/-- The value of the decimal digits `ds` read after the value `acc`. -/
def digitsValue (acc : Nat) (ds : List Char) : Nat :=
  ds.foldl (fun n c => n * 10 + (c.toNat - '0'.toNat)) acc

@[simp] theorem digitsValue_nil (acc : Nat) : digitsValue acc [] = acc := rfl

@[simp] theorem digitsValue_cons (acc : Nat) (c : Char) (rest : List Char) :
    digitsValue acc (c :: rest) = digitsValue (acc * 10 + (c.toNat - '0'.toNat)) rest := rfl

theorem le_digitsValue (acc : Nat) (ds : List Char) : acc ≤ digitsValue acc ds := by
  induction ds generalizing acc with
  | nil => exact Nat.le_refl acc
  | cons c rest ih =>
    rw [digitsValue_cons]
    exact Nat.le_trans (by omega) (ih (acc * 10 + (c.toNat - '0'.toNat)))

/-- On decimal digits, the loop returns their value when it fits under `maxVal`, and a range
error otherwise. -/
theorem parseDigits_eq {maxVal : Nat} (bound : maxVal < 18446744073709551620) {ds : List Char}
    (digits : ∀ c ∈ ds, c.isDigit) {acc : Nat} (start : acc ≤ maxVal) :
    parseDigits maxVal ds acc =
      if digitsValue acc ds ≤ maxVal then .ok (digitsValue acc ds) else .error .errRange := by
  induction ds generalizing acc with
  | nil => rw [parseDigits, digitsValue_nil, if_pos start]
  | cons c rest ih =>
    have next := le_digitsValue (acc * 10 + (c.toNat - '0'.toNat)) rest
    rw [parseDigits, if_pos (digits c (List.mem_cons_self c rest)), digitsValue_cons]
    dsimp only
    by_cases over : 1844674407370955162 ≤ acc ∨ maxVal < acc * 10 + (c.toNat - '0'.toNat)
    · rw [if_pos over, if_neg (by omega)]
    · rw [if_neg over]
      exact ih (fun x mem => digits x (List.mem_cons_of_mem c mem)) (by omega)

theorem digitChar_digit :
    ∀ k < 10, (Nat.digitChar k).isDigit ∧ (Nat.digitChar k).toNat - '0'.toNat = k := by
  decide

/-- Printing `n` in front of the digits `ds`, with fuel to spare, writes digits that read as
`n` followed by `ds`. -/
theorem toDigitsCore_value (fuel : Nat) : ∀ n ds, n < fuel →
    digitsValue 0 (Nat.toDigitsCore 10 fuel n ds) = digitsValue n ds ∧
      ((∀ c ∈ ds, c.isDigit) → ∀ c ∈ Nat.toDigitsCore 10 fuel n ds, c.isDigit) := by
  induction fuel with
  | zero => intro n ds bound; omega
  | succ fuel ih =>
    intro n ds bound
    have digit := digitChar_digit (n % 10) (Nat.mod_lt n (by decide))
    simp only [Nat.toDigitsCore]
    split
    · next last =>
      refine ⟨?_, fun digits c mem => ?_⟩
      · rw [digitsValue_cons, digit.2]; congr 1; omega
      · rcases List.mem_cons.mp mem with rfl | old
        · exact digit.1
        · exact digits c old
    · next more =>
      obtain ⟨value, digits⟩ := ih (n / 10) _ (by omega)
      refine ⟨value.trans ?_, fun following => digits fun c mem => ?_⟩
      · rw [digitsValue_cons, digit.2]; congr 1; omega
      · rcases List.mem_cons.mp mem with rfl | old
        · exact digit.1
        · exact following c old

/-- The digits `toString` prints for a natural number, as `%d` does, read back as the number. -/
theorem toDigits_value (n : Nat) :
    digitsValue 0 (Nat.toDigits 10 n) = n ∧ ∀ c ∈ Nat.toDigits 10 n, c.isDigit := by
  obtain ⟨value, digits⟩ := toDigitsCore_value (n + 1) n [] (Nat.lt_succ_self n)
  exact ⟨value, digits fun _ mem => nomatch mem⟩

theorem toDigits_ne_nil (n : Nat) : Nat.toDigits 10 n ≠ [] := by
  intro empty
  have value := (toDigits_value n).1
  rw [empty, digitsValue_nil] at value
  subst value
  exact absurd empty (by decide)

/-- `ParseInt` reads back the decimal text of a natural number: the number when it is below
`2^(bitSize-1)`, and a range error naming the text otherwise. -/
theorem parseInt_toString (n : Nat) {bitSize : Nat} (positive : 0 < bitSize) (small : bitSize ≤ 64) :
    parseInt (toString n) bitSize =
      if n < 2 ^ (bitSize - 1) then .ok n else .error ⟨"ParseInt", toString n, .errRange⟩ := by
  obtain ⟨value, digits⟩ := toDigits_value n
  obtain ⟨c, rest, split⟩ := List.exists_cons_of_ne_nil (toDigits_ne_nil n)
  rw [split] at value digits
  have digit := digits c (List.mem_cons_self c rest)
  have plus : c ≠ '+' := by rintro rfl; exact absurd digit (by decide)
  have minus : c ≠ '-' := by rintro rfl; exact absurd digit (by decide)
  have maxBound : 2 ^ bitSize ≤ 18446744073709551616 :=
    Nat.le_trans (Nat.pow_le_pow_right (by decide) small) (by decide)
  have half : 2 ^ (bitSize - 1) * 2 = 2 ^ bitSize := by
    rw [← Nat.pow_succ]; congr 1; omega
  have parsed := parseDigits_eq (by rw [Nat.one_shiftLeft]; omega) digits
    (Nat.zero_le ((1 <<< bitSize) - 1))
  rw [value, Nat.one_shiftLeft] at parsed
  simp only [parseInt, show (toString n).toList = c :: rest from split, if_neg plus, if_neg minus,
    parseUint, List.cons_ne_nil, if_false, Nat.one_shiftLeft, parsed]
  by_cases fits : n ≤ 2 ^ bitSize - 1
  · by_cases low : n < 2 ^ (bitSize - 1)
    · simp only [fits, low, ite_true, Bool.not_false, Nat.not_le.mpr low, decide_False,
        Bool.and_false, Bool.false_eq_true, Bool.false_and, ite_false]
      rfl
    · simp only [fits, low, ite_true, ite_false, Bool.not_false, Nat.le_of_not_lt low,
        decide_True, Bool.and_self]
  · have high : ¬n < 2 ^ (bitSize - 1) := by omega
    simp only [fits, high, ite_false, ite_true, Bool.not_false, Bool.true_and, decide_eq_true_eq]
    rw [if_pos (by omega)]

end DmsApi.Strconv
