import Mathlib.Data.List.Basic

/-!
# Base64

The encoding of bytes by 64 printable characters, three bytes by four, with a line break after
every 18 groups and at the end. The decoder skips every character that is not a digit, so that
line breaks and padding do not matter (`decode_filter_encode`).
-/

namespace Base64

/-! ### Digits -/

/-- The character of a digit below 64. -/
def char (n : ℕ) : UInt8 :=
  if n < 26 then UInt8.ofNat (65 + n)
  else if n < 52 then UInt8.ofNat (71 + n)
  else if n < 62 then UInt8.ofNat (n - 4)
  else if n = 62 then 43
  else 47

/-- The digit of a character, if it is one. -/
def digit (c : UInt8) : Option ℕ :=
  if 65 ≤ c ∧ c ≤ 90 then some (c.toNat - 65)
  else if 97 ≤ c ∧ c ≤ 122 then some (c.toNat - 71)
  else if 48 ≤ c ∧ c ≤ 57 then some (c.toNat + 4)
  else if c = 43 then some 62
  else if c = 47 then some 63
  else none

/-- `=`, which fills up the last group. -/
def pad : UInt8 := 61

/-- The line break. -/
def newline : UInt8 := 10

theorem digit_char {n : ℕ} (h : n < 64) : digit (char n) = some n := by
  -- 64 characters are few enough to try them all
  have hall : ∀ n : Fin 64, digit (char n) = some n.val := by decide +kernel
  exact hall ⟨n, h⟩

/-! ### The coder -/

/-- Encode after `groups` groups on the line. -/
def encodeFrom (groups : ℕ) : List UInt8 → List UInt8
  | a :: b :: c :: bytes =>
      char (a.toNat / 4) :: char (a.toNat % 4 * 16 + b.toNat / 16) ::
        char (b.toNat % 16 * 4 + c.toNat / 64) :: char (c.toNat % 64) ::
          (if groups + 1 = 18 then newline :: encodeFrom 0 bytes
          else encodeFrom (groups + 1) bytes)
  | [a, b] =>
      [char (a.toNat / 4), char (a.toNat % 4 * 16 + b.toNat / 16), char (b.toNat % 16 * 4), pad,
        newline]
  | [a] => [char (a.toNat / 4), char (a.toNat % 4 * 16), pad, pad, newline]
  | [] => [newline]

/-- The base64 text of some bytes. -/
def encode (bytes : List UInt8) : List UInt8 := encodeFrom 0 bytes

/-- The bytes of a sequence of digits. -/
def decodeDigits : List ℕ → List UInt8
  | w :: x :: y :: z :: digits =>
      UInt8.ofNat (w * 4 + x / 16) :: UInt8.ofNat (x % 16 * 16 + y / 4) ::
        UInt8.ofNat (y % 4 * 64 + z) :: decodeDigits digits
  | [w, x, y] => [UInt8.ofNat (w * 4 + x / 16), UInt8.ofNat (x % 16 * 16 + y / 4)]
  | [w, x] => [UInt8.ofNat (w * 4 + x / 16)]
  | _ => []

/-- The bytes of a base64 text. -/
def decode (text : List UInt8) : List UInt8 := decodeDigits (text.filterMap digit)

/-! ### The round trip -/

/-- The digits of some bytes. -/
def digits : List UInt8 → List ℕ
  | a :: b :: c :: bytes =>
      a.toNat / 4 :: (a.toNat % 4 * 16 + b.toNat / 16) :: (b.toNat % 16 * 4 + c.toNat / 64) ::
        c.toNat % 64 :: digits bytes
  | [a, b] => [a.toNat / 4, a.toNat % 4 * 16 + b.toNat / 16, b.toNat % 16 * 4]
  | [a] => [a.toNat / 4, a.toNat % 4 * 16]
  | [] => []

theorem filterMap_encodeFrom (groups : ℕ) (bytes : List UInt8) :
    (encodeFrom groups bytes).filterMap digit = digits bytes := by
  have hpad : digit pad = none := by decide
  have hnewline : digit newline = none := by decide
  have hbyte (a : UInt8) : a.toNat < 256 := a.toNat_lt
  induction groups, bytes using encodeFrom.induct with
  | case1 groups a b c bytes ihbreak ih =>
      have := hbyte a; have := hbyte b; have := hbyte c
      rw [encodeFrom, digits]
      -- each of the four characters is the digit it was made from, as that is below 64
      simp (disch := omega) only [List.filterMap_cons, digit_char]
      -- a line break is no digit, so that it does not matter where it stands
      split_ifs
      · simp only [List.filterMap_cons, hnewline, ihbreak]
      · rw [ih]
  | case2 groups a b =>
      have := hbyte a; have := hbyte b
      rw [encodeFrom, digits]
      simp (disch := omega) only [List.filterMap_cons, digit_char]
      simp only [hpad, hnewline, List.filterMap_nil]
  | case3 groups a =>
      have := hbyte a
      rw [encodeFrom, digits]
      simp (disch := omega) only [List.filterMap_cons, digit_char]
      simp only [hpad, hnewline, List.filterMap_nil]
  | case4 groups => simp [encodeFrom, digits, hnewline]

theorem decodeDigits_digits (bytes : List UInt8) : decodeDigits (digits bytes) = bytes := by
  have hbyte (a : UInt8) (n : ℕ) (h : n = a.toNat) : UInt8.ofNat n = a := by simp [h]
  induction bytes using digits.induct with
  | case1 a b c bytes ih =>
      have := a.toNat_lt; have := b.toNat_lt; have := c.toNat_lt
      -- the bits of each byte meet again
      rw [digits, decodeDigits, ih, hbyte a _ (by omega), hbyte b _ (by omega),
        hbyte c _ (by omega)]
  | case2 a b =>
      have := a.toNat_lt; have := b.toNat_lt
      rw [digits, decodeDigits, hbyte a _ (by omega), hbyte b _ (by omega)]
  | case3 a =>
      have := a.toNat_lt
      rw [digits, decodeDigits, hbyte a _ (by omega)]
  | case4 => rfl

/-- Decoding inverts encoding, also after the line breaks are removed. -/
theorem decode_filter_encode (bytes : List UInt8) :
    decode ((encode bytes).filter (· ≠ newline)) = bytes := by
  -- the decoder skips line breaks anyway
  have hfilter (text : List UInt8) :
      (text.filter (· ≠ newline)).filterMap digit = text.filterMap digit := by
    induction text with
    | nil => rfl
    | cons c text ih =>
        by_cases hc : c = newline
        · have hnewline : digit newline = none := by decide
          simpa [hc, hnewline] using ih
        · simp only [ne_eq, hc, not_false_eq_true, decide_true, List.filter_cons_of_pos,
            List.filterMap_cons, ← ih]
  rw [decode, hfilter, encode, filterMap_encodeFrom, decodeDigits_digits]

end Base64
