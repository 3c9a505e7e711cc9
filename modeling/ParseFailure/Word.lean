/-! Signed machine words of 64 bits. -/

namespace ParseFailure

def fitsWord (n : Int) : Bool := -0x8000000000000000 ≤ n && n < 0x8000000000000000

end ParseFailure
