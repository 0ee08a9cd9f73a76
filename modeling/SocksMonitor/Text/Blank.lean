/-!
# Blank text

White space here is the Unicode property White_Space with its twenty-five characters; core's
`Char.isWhitespace` knows ASCII only. A host that is blank names nothing, a blank connect target
selects the default one, and times may be surrounded by white space.
-/

namespace SocksMonitor.Text

/-- The characters with the Unicode property White_Space. -/
def isBlank (c : Char) : Bool :=
  let n := c.toNat
  (0x09 ≤ n && n ≤ 0x0D) || n == 0x20 || n == 0x85 || n == 0xA0 || n == 0x1680
    || (0x2000 ≤ n && n ≤ 0x200A) || n == 0x2028 || n == 0x2029 || n == 0x202F || n == 0x205F
    || n == 0x3000

def dropBlank (cs : List Char) : List Char := cs.dropWhile isBlank

/-- Text of which nothing is left once its white space is gone. -/
def allBlank (cs : List Char) : Bool := cs.all isBlank

end SocksMonitor.Text
