/-!
# Words of 64 bits

The integers that a word of 64 bits holds, with and without a sign.
-/

namespace SparkLog.Word

/-- How many words there are. -/
def count : Int := 18446744073709551616

/-- How many words stand for integers that are not negative where words have a sign. -/
def half : Int := 9223372036854775808

/-- Whether a word with a sign holds an integer. -/
def isSigned (n : Int) : Bool :=
  -half ≤ n && n < half

/-- Whether a word without a sign holds an integer. -/
def isUnsigned (n : Int) : Bool :=
  0 ≤ n && n < count

/-- An integer as a word with a sign, wrapped around. -/
def wrapSigned (n : Int) : Int :=
  Int.bmod n 18446744073709551616

/-- An integer as a word without a sign, wrapped around. -/
def wrapUnsigned (n : Int) : Int :=
  n % count

end SparkLog.Word
