/-!
# Blank characters

Two sets of characters count as blank: the property White_Space of Unicode, and that set with the
four separators of the control range, which pad the lines of a log and the values in it.
-/

namespace SparkLog.Text

/-- The Unicode property White_Space. -/
def isWhiteSpace (c : Char) : Bool :=
  let n := c.toNat
  (9 ≤ n && n ≤ 13) || n == 0x20 || n == 0x85 || n == 0xA0 || n == 0x1680 ||
    (0x2000 ≤ n && n ≤ 0x200A) || n == 0x2028 || n == 0x2029 || n == 0x202F || n == 0x205F ||
    n == 0x3000

/-- White space, and the separators of files, groups, records and units. -/
def isBlank (c : Char) : Bool :=
  isWhiteSpace c || (0x1C ≤ c.toNat && c.toNat ≤ 0x1F)

/-- The characters without those at both ends that `drop` accepts. -/
def strip (drop : Char → Bool) (cs : List Char) : List Char :=
  ((cs.dropWhile drop).reverse.dropWhile drop).reverse

end SparkLog.Text
