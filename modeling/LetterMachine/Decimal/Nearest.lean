import LetterMachine.Text.Numeral

namespace LetterMachine.Decimal

/-- The quotient rounded to the nearest integer, and to the even one of two. -/
def roundedQuotient (num den : Nat) : Nat :=
  let q := num / den
  let twice := 2 * (num % den)
  if twice < den || (twice == den && q % 2 == 0) then q else q + 1

/-- The bits that stand for infinity. -/
def infinityBits : Nat := 0x7FF0000000000000

/-- The binary exponent of a positive quotient: it lies between this power of two and the next. -/
def binaryExponent (num den : Nat) : Int :=
  let e : Int := (num.log2 : Int) - (den.log2 : Int)
  if e < 0 then if num <<< (-e).toNat < den then e - 1 else e
  else if num < den <<< e.toNat then e - 1 else e

/-- The bits of the number nearest to a quotient. The mantissa has 53 binary digits unless the
exponent would fall below its least value, and a mantissa that is rounded up to one digit more
carries into the exponent. -/
def nearestBits (num den : Nat) : Nat :=
  if num = 0 then 0
  else
    let e := max (binaryExponent num den) (-1022)
    let unit := e - 52
    let m :=
      if unit < 0 then roundedQuotient (num <<< (-unit).toNat) den
      else roundedQuotient num (den <<< unit.toNat)
    min infinityBits ((e + 1022).toNat <<< 52 + m)

/-- The bits of the number nearest to a decimal. Decimals far out of the range are not expanded. -/
def bitsOfDecimal (mantissa : Nat) (exponent : Int) : Nat :=
  if mantissa = 0 then 0
  else
    let size := (Text.ofNat mantissa).length + exponent
    if size < -400 then 0
    else if 400 < size then infinityBits
    else if exponent < 0 then nearestBits mantissa (Nat.pow 10 (-exponent).toNat)
    else nearestBits (mantissa * Nat.pow 10 exponent.toNat) 1

/-- The floating-point number nearest to a decimal. -/
def ofDecimal (mantissa : Nat) (exponent : Int) : Float :=
  Float.ofBits (UInt64.ofNat (bitsOfDecimal mantissa exponent))

/-- The floating-point number nearest to a natural number. -/
def ofNat (n : Nat) : Float := Float.ofBits (UInt64.ofNat (nearestBits n 1))

end LetterMachine.Decimal
