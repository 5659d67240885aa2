/-!
# Table — hash functions

A table works with any hash function; only the order of its entries
depends on the choice.
-/

namespace Cardfile

namespace Hashing

/-- The polynomial with the octets as coefficients, at 31. -/
def polynomial (octets : List UInt8) : UInt64 :=
  octets.foldl (fun h b => h * 31 + b.toUInt64) 0

/-- The polynomial hash of a text: its octets, and one that ends no
text. -/
def ofString (s : String) : UInt64 := polynomial (s.toUTF8.toList ++ [0xFF])

/-- The hash of an integer is the word that represents it. -/
def ofInt (i : Int) : UInt64 := UInt64.ofNat (i % 18446744073709551616).toNat

/-- The hash that sends all keys to one bucket. -/
def constant {K : Type} (_ : K) : UInt64 := 0

end Hashing

end Cardfile
