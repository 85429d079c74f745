/-!
White space in the sense of the Unicode property `White_Space`: trimming a text and cutting it
into words.
-/

namespace HttpServer.Text

def isBlank (c : Char) : Bool :=
  (0x09 ≤ c.toNat && c.toNat ≤ 0x0D) || c.toNat = 0x20 || c.toNat = 0x85 || c.toNat = 0xA0 ||
  c.toNat = 0x1680 || (0x2000 ≤ c.toNat && c.toNat ≤ 0x200A) || c.toNat = 0x2028 ||
  c.toNat = 0x2029 || c.toNat = 0x202F || c.toNat = 0x205F || c.toNat = 0x3000

def trim (text : List Char) : List Char :=
  ((text.dropWhile isBlank).reverse.dropWhile isBlank).reverse

/-- `word` is the word being read, newest character first; `found` the words before it, newest
first. -/
def wordsFrom (found : List (List Char)) (word : List Char) : List Char → List (List Char)
  | [] => (if word.isEmpty then found else word.reverse :: found).reverse
  | c :: rest =>
    if isBlank c then
      wordsFrom (if word.isEmpty then found else word.reverse :: found) [] rest
    else wordsFrom found (c :: word) rest

def words (text : List Char) : List (List Char) :=
  wordsFrom [] [] text

end HttpServer.Text
