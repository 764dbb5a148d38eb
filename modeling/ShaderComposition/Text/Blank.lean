/-!
# White space

The characters with the Unicode property White_Space, and texts without those at their ends.
-/

namespace ShaderComposition.Text

/-- The characters with the property White_Space. -/
def whiteSpace : List Char := [
  '\u0009', '\u000a', '\u000b', '\u000c', '\u000d', '\u0020', '\u0085', '\u00a0', '\u1680',
  '\u2000', '\u2001', '\u2002', '\u2003', '\u2004', '\u2005', '\u2006', '\u2007', '\u2008',
  '\u2009', '\u200a', '\u2028', '\u2029', '\u202f', '\u205f', '\u3000']

def isWhite (c : Char) : Bool :=
  whiteSpace.contains c

/-- A text of white space only. -/
def isBlank (text : List Char) : Bool :=
  text.all isWhite

def trimStart (text : List Char) : List Char :=
  text.dropWhile isWhite

def trimEnd (text : List Char) : List Char :=
  (text.reverse.dropWhile isWhite).reverse

def trim (text : List Char) : List Char :=
  trimEnd (trimStart text)

/-- The first word of a text: what stands before the next white space. -/
def firstWord (text : List Char) : List Char :=
  (trimStart text).takeWhile (!isWhite ·)

/-- The last word of a text: what stands after the last white space. -/
def lastWord (text : List Char) : List Char :=
  (firstWord text.reverse).reverse

end ShaderComposition.Text
