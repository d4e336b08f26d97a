/-! Byte strings as lists of bytes: their hexadecimal text, and the unsigned words they hold, least
significant byte first. -/

namespace PipelineCache

abbrev Bytes := List UInt8

namespace Bytes

def hexDigit (value : Nat) : Char :=
  Char.ofNat (if value < 10 then 48 + value else 87 + value)

/-- Two lower-case hexadecimal digits for each byte. -/
def toHex (bytes : Bytes) : String :=
  String.ofList (bytes.flatMap fun byte =>
    [hexDigit (byte.toNat / 16), hexDigit (byte.toNat % 16)])

def hexValue (digit : Char) : Option Nat :=
  if '0' ≤ digit ∧ digit ≤ '9' then some (digit.toNat - 48)
  else if 'a' ≤ digit ∧ digit ≤ 'f' then some (digit.toNat - 87)
  else if 'A' ≤ digit ∧ digit ≤ 'F' then some (digit.toNat - 55)
  else none

/-- Reads pairs of hexadecimal digits; an odd digit or any other character is refused. -/
def ofHexDigits : List Char → Option Bytes
  | [] => some []
  | high :: low :: rest => do
      let upper ← hexValue high
      let lower ← hexValue low
      let bytes ← ofHexDigits rest
      return UInt8.ofNat (16 * upper + lower) :: bytes
  | [_] => none

def ofHex (text : String) : Option Bytes := ofHexDigits text.toList

def ofText (text : String) : Bytes := text.toUTF8.toList

def zeros (count : Nat) : Bytes := List.replicate count 0

/-- The number whose base 256 digits are the bytes, least significant first. -/
def toNat : Bytes → Nat
  | [] => 0
  | byte :: rest => byte.toNat + 256 * toNat rest

/-- The lowest `width` base 256 digits of a number, least significant first. -/
def ofNat : Nat → Nat → Bytes
  | 0, _ => []
  | width + 1, value => UInt8.ofNat (value % 256) :: ofNat width (value / 256)

@[simp] theorem length_ofNat (width value : Nat) : (ofNat width value).length = width := by
  induction width generalizing value with
  | zero => rfl
  | succ width ih => simp [ofNat, ih]

/-- Replaces the byte at `index` by its exclusive or with `mask`; outside the string nothing
changes. -/
def xorAt (bytes : Bytes) (index : Nat) (mask : UInt8) : Bytes :=
  bytes.modify index (· ^^^ mask)

/-- Cuts the string, or fills it up with zeros, to the given length. -/
def resize (bytes : Bytes) (length : Nat) : Bytes :=
  bytes.take length ++ zeros (length - bytes.length)

@[simp] theorem length_zeros (count : Nat) : (zeros count).length = count := by
  simp [zeros]

@[simp] theorem length_xorAt (bytes : Bytes) (index : Nat) (mask : UInt8) :
    (bytes.xorAt index mask).length = bytes.length := by
  simp [xorAt]

@[simp] theorem length_resize (bytes : Bytes) (length : Nat) :
    (bytes.resize length).length = length := by
  simp [resize]
  omega

theorem shiftLeft_width_succ (width : Nat) : 1 <<< (8 * (width + 1)) = 256 * 1 <<< (8 * width) := by
  rw [Nat.mul_succ, Nat.shiftLeft_add, Nat.shiftLeft_eq _ 8, Nat.mul_comm]

theorem toNat_lt (bytes : Bytes) : bytes.toNat < 1 <<< (8 * bytes.length) := by
  induction bytes with
  | nil => exact Nat.one_pos
  | cons byte rest ih =>
      have small := byte.toNat_lt
      rw [toNat, List.length_cons, shiftLeft_width_succ]
      omega

theorem toNat_ofNat (width value : Nat) :
    (ofNat width value).toNat = value % 1 <<< (8 * width) := by
  induction width generalizing value with
  | zero => exact (Nat.mod_one value).symm
  | succ width ih =>
      rw [ofNat, toNat, ih, shiftLeft_width_succ, Nat.mod_mul]
      simp

theorem ofNat_toNat (bytes : Bytes) : ofNat bytes.length bytes.toNat = bytes := by
  induction bytes with
  | nil => rfl
  | cons byte rest ih =>
      have small := byte.toNat_lt
      have low : (byte.toNat + 256 * Bytes.toNat rest) % 256 = byte.toNat := by omega
      have high : (byte.toNat + 256 * Bytes.toNat rest) / 256 = Bytes.toNat rest := by omega
      simp [ofNat, toNat, low, high, ih]

end Bytes

/-- Sixteen lower-case hexadecimal digits, most significant first. -/
def hex64 (word : UInt64) : String :=
  Bytes.toHex (Bytes.ofNat 8 word.toNat).reverse

end PipelineCache
