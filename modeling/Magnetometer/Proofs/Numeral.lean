import Magnetometer.Numeral

/-!
# Numbers read back

A number that stands in a line can be found there again. One reader does for all the ways in which
the library writes numbers: it goes through the digits from the left and knows the base
(`Numeral.read?`). What it reads is what was written: `read?_toDigits`, `read?_hexByte` and
`read?_binaryByte`.

A line is taken apart from marks and widths: a field is a number of characters that follows a fixed
text (`Numeral.field?`).
-/

namespace Magnetometer.Numeral

/-! ## Digits -/

/-- What a digit stands for. The letters for ten to fifteen may be of either case. -/
def digit? (c : Char) : Option Nat :=
  if '0' ≤ c ∧ c ≤ '9' then some (c.toNat - '0'.toNat)
  else if 'a' ≤ c ∧ c ≤ 'f' then some (c.toNat - 'a'.toNat + 10)
  else if 'A' ≤ c ∧ c ≤ 'F' then some (c.toNat - 'A'.toNat + 10)
  else none

theorem digit?_digitChar : ∀ d < 16, digit? (Nat.digitChar d) = some d := by decide

theorem digit?_toUpper_digitChar : ∀ d < 16, digit? (Nat.digitChar d).toUpper = some d := by decide

/-- The number that continues a given one with further digits. -/
def read? (base : Nat) : Nat → List Char → Option Nat
  | n, [] => some n
  | n, c :: rest => do
    let d ← digit? c
    if d < base then read? base (base * n + d) rest else none

theorem read?_cons {base n d : Nat} {c : Char} (hc : digit? c = some d) (hd : d < base)
    (rest : List Char) : read? base n (c :: rest) = read? base (base * n + d) rest := by
  rw [read?, hc, Option.bind_eq_bind, Option.bind_some, if_pos hd]

theorem read?_append {base : Nat} (s t : List Char) (n : Nat) :
    read? base n (s ++ t) = (read? base n s).bind fun m => read? base m t := by
  induction s generalizing n with
  | nil => rfl
  | cons c s ih =>
    rw [List.cons_append, read?, read?]
    cases digit? c with
    | none => rfl
    | some d =>
      simp only [Option.bind_eq_bind, Option.bind_some]
      split
      · exact ih _
      · rfl

/-! ## Numbers -/

/-- Digits in any base up to sixteen are read as the number they were written for. -/
theorem read?_toDigits {base : Nat} (hbase : 1 < base) (hbase' : base ≤ 16) (n : Nat) :
    read? base 0 (Nat.toDigits base n) = some n := by
  have hdigit (m : Nat) {d : Nat} (hd : d < base) :
      read? base m (Nat.toDigits base d) = some (base * m + d) := by
    rw [Nat.toDigits_of_lt_base hd,
      read?_cons (digit?_digitChar d (Nat.lt_of_lt_of_le hd hbase')) hd, read?]
  -- The last digit is the remainder, and the digits before it are those of the quotient.
  induction n using Nat.strongRecOn with
  | ind n ih =>
    by_cases hn : n < base
    · rw [hdigit 0 hn, Nat.mul_zero, Nat.zero_add]
    · have hquotient : 0 < n / base := Nat.div_pos (Nat.le_of_not_lt hn) (by omega)
      have hremainder : n % base < base := Nat.mod_lt n (by omega)
      have hsplit := Nat.toDigits_append_toDigits hbase hquotient hremainder
      rw [Nat.div_add_mod] at hsplit
      rw [← hsplit, read?_append, ih (n / base) (Nat.div_lt_self (by omega) hbase),
        Option.bind_some, hdigit _ hremainder, Nat.div_add_mod]

theorem read?_decimal (n : Nat) : read? 10 0 (decimal n) = some n :=
  read?_toDigits (by omega) (by omega) n

/-- The two digits of a byte, in whichever case. -/
theorem read?_hexPair {c c' : Char} {b : UInt8} (hc : digit? c = some (b.toNat / 16))
    (hc' : digit? c' = some (b.toNat % 16)) : read? 16 0 [c, c'] = some b.toNat := by
  have := b.toNat_lt
  rw [read?_cons hc (by omega), read?_cons hc' (by omega), read?, Nat.mul_zero, Nat.zero_add,
    Nat.div_add_mod]

theorem read?_hexByte (b : UInt8) : read? 16 0 (hexByte b) = some b.toNat := by
  have := b.toNat_lt
  exact read?_hexPair (digit?_digitChar _ (by omega)) (digit?_digitChar _ (by omega))

theorem read?_upperHexByte (b : UInt8) : read? 16 0 (upperHexByte b) = some b.toNat := by
  have := b.toNat_lt
  exact read?_hexPair (digit?_toUpper_digitChar _ (by omega))
    (digit?_toUpper_digitChar _ (by omega))

/-- Reading the digit at a place turns what lies above that place into what lies from it on. -/
theorem read?_testBit (n place : Nat) (rest : List Char) :
    read? 2 (n >>> (place + 1)) ((if n.testBit place then '1' else '0') :: rest) =
      read? 2 (n >>> place) rest := by
  have habove : n >>> (place + 1) = n >>> place / 2 := Nat.shiftRight_succ n place
  have hdigit : n.testBit place = decide (n >>> place % 2 = 1) := by
    rw [← Nat.testBit_zero, Nat.testBit_shiftRight, Nat.add_zero]
  rw [hdigit, habove]
  by_cases hbit : n >>> place % 2 = 1
  · rw [if_pos (decide_eq_true hbit), read?_cons (d := 1) rfl (by omega)]
    congr 1
    omega
  · rw [if_neg (by rw [decide_eq_true_iff]; exact hbit), read?_cons (d := 0) rfl (by omega)]
    congr 1
    omega

theorem read?_binaryByte (b : UInt8) : read? 2 0 (binaryByte b) = some b.toNat := by
  have hstart : 0 = b.toNat >>> 8 := by
    rw [Nat.shiftRight_eq_div_pow, Nat.div_eq_of_lt b.toNat_lt]
  rw [hstart, binaryByte]
  simp only [List.map_cons, List.map_nil, read?_testBit]
  rw [read?, Nat.shiftRight_zero]

/-! ## Bytes in lines -/

/-- The byte that is written in a base. -/
def byte? (base : Nat) (text : List Char) : Option UInt8 := do
  let n ← read? base 0 text
  if n < 256 then some (UInt8.ofNat n) else none

theorem byte?_eq_some {base : Nat} {text : List Char} {b : UInt8}
    (h : read? base 0 text = some b.toNat) : byte? base text = some b := by
  rw [byte?, h, Option.bind_eq_bind, Option.bind_some, if_pos b.toNat_lt, UInt8.ofNat_toNat]

/-- A number of characters that follow a mark, and what comes after them. -/
def field? (mark : String) (width : Nat) (text : List Char) : Option (List Char × List Char) :=
  if mark.toList <+: text then some ((text.drop mark.toList.length).splitAt width) else none

theorem field?_append {mark : String} {width : Nat} {field : List Char}
    (h : field.length = width) (rest : List Char) :
    field? mark width (mark.toList ++ (field ++ rest)) = some (field, rest) := by
  rw [field?, if_pos (List.prefix_append _ _), List.drop_left, List.splitAt_eq,
    List.take_left' h, List.drop_left' h]

/-- What ends a line is found by its length, whatever stands before it. -/
theorem drop_length_sub {n : Nat} {ending : List Char} (h : ending.length = n)
    (head : List Char) : (head ++ ending).drop ((head ++ ending).length - n) = ending := by
  rw [List.length_append, h, Nat.add_sub_cancel, List.drop_left]

/-- The blanks before a number that was set to the right are not part of it. -/
theorem dropWhile_padLeft_decimal (width n : Nat) :
    (padLeft width (decimal n)).dropWhile (· = ' ') = decimal n := by
  rw [padLeft, List.dropWhile_append_of_pos fun c hc => by
    rw [List.eq_of_mem_replicate hc, decide_eq_true_iff]]
  cases hdigits : decimal n with
  | nil => rfl
  | cons c rest =>
    have hmem : c ∈ decimal n := by
      rw [hdigits]
      exact List.mem_cons_self
    have hdigit : c.isDigit = true := Nat.isDigit_of_mem_toDigits (by omega) (by omega) hmem
    refine List.dropWhile_cons_of_neg fun hblank => ?_
    rw [of_decide_eq_true hblank] at hdigit
    exact absurd hdigit (by decide)

end Magnetometer.Numeral
