/-!
Blanks, splitting and joining. Blanks are the Unicode white space characters.
-/
namespace VectorStore.Text

/-- A white space character of any script. -/
def isBlank (c : Char) : Bool :=
  let n := c.toNat
  (0x9 ≤ n && n ≤ 0xD) || n == 0x20 || n == 0x85 || n == 0xA0 || n == 0x1680 ||
    (0x2000 ≤ n && n ≤ 0x200A) || n == 0x2028 || n == 0x2029 || n == 0x202F || n == 0x205F ||
    n == 0x3000

/-- The pieces between separators; there is always at least one, perhaps empty. -/
def split (separator : Char → Bool) : List Char → List (List Char)
  | [] => [[]]
  | c :: rest =>
    if separator c then [] :: split separator rest
    else
      match split separator rest with
      | [] => [[c]]
      | piece :: pieces => (c :: piece) :: pieces

/-- The words of a text: its non-empty pieces between blanks. -/
def words (cs : List Char) : List (List Char) := (split isBlank cs).filter (· ≠ [])

/-- Words with one space between them. -/
def unwords : List (List Char) → List Char
  | [] => []
  | [word] => word
  | word :: rest => word ++ ' ' :: unwords rest

/-- A text without the blanks at its ends. -/
def trim (cs : List Char) : List Char :=
  ((cs.dropWhile isBlank).reverse.dropWhile isBlank).reverse

/-- A text made of blanks alone, perhaps of nothing. -/
def isBlankText (text : String) : Bool := text.toList.all isBlank

/-- Texts with a separator between them. -/
def joinWith (separator : String) : List String → String
  | [] => ""
  | [text] => text
  | text :: rest => text ++ separator ++ joinWith separator rest

/-- What follows a first part, if the text begins with it. -/
def dropPrefix? : List Char → List Char → Option (List Char)
  | [], cs => some cs
  | p :: ps, c :: cs => if p = c then dropPrefix? ps cs else none
  | _ :: _, [] => none

/-- Whether two texts are equal but for the case of ASCII letters. -/
def equalsIgnoringCase (a b : String) : Bool :=
  a.toList.map Char.toLower == b.toList.map Char.toLower

end VectorStore.Text
