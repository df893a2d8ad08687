/-!
Shortest decimal text of binary floating-point numbers.

A finite number other than zero is `mantissa * 2 ^ exponent` (`Magnitude`), and every real closer to
it than to its neighbours reads back as it. `Magnitude.shortest` finds the decimal with the fewest
digits in that interval, and of those the nearest. `Float.text` then lays the digits out.
-/

namespace RemoteCall

/-- A positive binary number together with the reals that are rounded to it. -/
structure Magnitude where
  mantissa : Nat
  exponent : Int
  /-- The neighbour below is only half as far away as the one above. -/
  narrowBelow : Bool

/-- A positive decimal number, `digits * 10 ^ exponent`. -/
structure Decimal where
  digits : Nat
  exponent : Int
deriving DecidableEq

namespace Magnitude

/-- `2 ^ e` as a numerator and a denominator. -/
def powerOfTwo (e : Int) : Nat × Nat := (Nat.pow 2 e.toNat, Nat.pow 2 (-e).toNat)

/-- A quarter of the unit in the last binary place, measured in units of `10 ^ e`: a numerator and a
denominator. -/
def quarter (m : Magnitude) (e : Int) : Nat × Nat :=
  let (n, d) := powerOfTwo (m.exponent - 2)
  (n * Nat.pow 10 (-e).toNat, d * Nat.pow 10 e.toNat)

/-- Whether `count` units of `10 ^ e` read back as the number. The ends of the interval do if the
mantissa is even. -/
def readsBack (m : Magnitude) (e : Int) (count : Nat) : Bool :=
  let (n, d) := m.quarter e
  let low := (4 * m.mantissa - if m.narrowBelow then 1 else 2) * n
  let high := (4 * m.mantissa + 2) * n
  let x := count * d
  if m.mantissa % 2 = 0 then low ≤ x && x ≤ high else low < x && x < high

/-- Of the two multiples of `10 ^ e` beside the number, the one that reads back; if both do, the
nearer one, and of two equally near ones the larger. -/
def onGrid? (m : Magnitude) (e : Int) : Option Nat :=
  let (n, d) := m.quarter e
  let below := 4 * m.mantissa * n / d
  let rest := 4 * m.mantissa * n % d
  match m.readsBack e below, m.readsBack e (below + 1) with
  | true, true => some (if 2 * rest < d then below else below + 1)
  | true, false => some below
  | false, true => some (below + 1)
  | false, false => none

/-- The exponent of the leading decimal digit, from an estimate that may be one too small. -/
def leading (m : Magnitude) : Int :=
  let bits : Int := Nat.log2 m.mantissa + m.exponent
  let guess := (bits * 30103 - 100000) / 100000
  let atLeast (e : Int) : Bool :=
    let (n, d) := m.quarter e
    d ≤ 4 * m.mantissa * n
  if atLeast (guess + 2) then guess + 2 else if atLeast (guess + 1) then guess + 1 else guess

/-- The decimal without zeros at its end. -/
def trim (digits : Nat) (exponent : Int) : Nat → Decimal
  | 0 => ⟨digits, exponent⟩
  | fuel + 1 =>
    if digits % 10 = 0 && digits ≠ 0 then trim (digits / 10) (exponent + 1) fuel
    else ⟨digits, exponent⟩

/-- Looks for a hit on ever finer grids, `places` of them. -/
def search (m : Magnitude) (e : Int) : Nat → Decimal
  | 0 => ⟨m.mantissa, 0⟩
  | places + 1 =>
    match m.onGrid? e with
    | some count => trim count e 20
    | none => search m (e - 1) places

/-- The decimal with the fewest digits that reads back as the number, the nearest of those.
Seventeen digits always suffice for mantissas of 53 bits. -/
def shortest (m : Magnitude) : Decimal := m.search m.leading 20

end Magnitude

/-- How the bits of a floating-point number are split. -/
structure FloatFormat where
  mantissaBits : Nat
  exponentBits : Nat

namespace FloatFormat

/-- Numbers of 32 bits. -/
def single : FloatFormat := ⟨23, 8⟩

/-- Numbers of 64 bits. -/
def double : FloatFormat := ⟨52, 11⟩

/-- The magnitude of a finite number, from its two unsigned fields; none for zero. -/
def magnitude? (f : FloatFormat) (exponent mantissa : Nat) : Option Magnitude :=
  let lowest : Int := 2 - (Nat.pow 2 (f.exponentBits - 1) : Nat) - f.mantissaBits
  if exponent = 0 then
    if mantissa = 0 then none else some ⟨mantissa, lowest, false⟩
  else
    some ⟨Nat.pow 2 f.mantissaBits + mantissa, lowest + (exponent - 1 : Nat),
      mantissa = 0 && exponent ≠ 1⟩

/-- Digits with a point: at least one digit stands on either side of it. -/
def positional (d : Decimal) : String :=
  let digits := Nat.toDigits 10 d.digits
  if 0 ≤ d.exponent then
    String.ofList (digits ++ List.replicate d.exponent.toNat '0' ++ ['.', '0'])
  else
    let places := (-d.exponent).toNat
    let padded := List.replicate (places + 1 - digits.length) '0' ++ digits
    let whole := padded.length - places
    String.ofList (padded.take whole ++ '.' :: padded.drop whole)

/-- One digit, the others behind a point, and the power of ten. -/
def scientific (d : Decimal) : String :=
  let digits := Nat.toDigits 10 d.digits
  let power := d.exponent + (digits.length - 1 : Nat)
  let rest := digits.drop 1
  let behind := if rest.isEmpty then [] else '.' :: rest
  String.ofList (digits.take 1 ++ behind) ++ "e" ++ toString power

/-- Numbers from a ten-thousandth up to ten thousand million millions are written out, all others
with a power of ten. -/
def layout (d : Decimal) : String :=
  let power := d.exponent + ((Nat.toDigits 10 d.digits).length - 1 : Nat)
  if -4 ≤ power && power < 16 then positional d else scientific d

/-- The text of the number with the given bits. -/
def text (f : FloatFormat) (bits : Nat) : String :=
  let mantissa := bits % Nat.pow 2 f.mantissaBits
  let exponent := bits / Nat.pow 2 f.mantissaBits % Nat.pow 2 f.exponentBits
  let sign := if bits / Nat.pow 2 (f.mantissaBits + f.exponentBits) % 2 = 1 then "-" else ""
  if exponent = Nat.pow 2 f.exponentBits - 1 then
    if mantissa = 0 then sign ++ "inf" else "NaN"
  else
    match f.magnitude? exponent mantissa with
    | none => sign ++ "0.0"
    | some m => sign ++ layout m.shortest

end FloatFormat

end RemoteCall
