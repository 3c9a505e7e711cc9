/-! Hexadecimal numbers of a fixed number of digits, in lower or upper case. -/

namespace ParseFailure.Text.Hex

def lowerDigit (d : Nat) : Char := if d < 10 then Char.ofNat (48 + d) else Char.ofNat (87 + d)

def upperDigit (d : Nat) : Char := if d < 10 then Char.ofNat (48 + d) else Char.ofNat (55 + d)

/-- The last two digits of a number, the higher one first. -/
def pair (digit : Nat → Char) (n : Nat) : List Char := [digit (n / 16 % 16), digit (n % 16)]

/-- The last four digits of a number, the highest one first. -/
def quad (digit : Nat → Char) (n : Nat) : List Char := pair digit (n / 256) ++ pair digit n

end ParseFailure.Text.Hex
