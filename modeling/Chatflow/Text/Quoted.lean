import Chatflow.Unicode.Category
import Chatflow.Unicode.Property

/-!
# Blanks and quoted text

Which characters are blank, texts without the blanks at both ends, and texts in quotes for
diagnostics, in which whatever does not print by itself is escaped.
-/

namespace Chatflow

namespace Text

/-- The blank characters. -/
def blanks : Unicode.CodeSet := .ofStretches Unicode.Property.whiteSpace

/-- Whether a character is blank. -/
def isBlank (c : Char) : Bool := blanks.contains c.toNat

/-- A text without the blanks at both ends. -/
def trim (s : String) : String :=
  String.ofList (((s.toList.dropWhile isBlank).reverse.dropWhile isBlank).reverse)

/-! ### Quotes -/

/-- The characters without a shape of their own: controls, formats, unassigned ones, separators
other than the blank, and marks that join the character before them. -/
def shapeless : Unicode.CodeSet :=
  ((Unicode.Category.ofLetters ["Cc", "Cf", "Cs", "Co", "Cn", "Zl", "Zp", "Zs"]).difference
    (.ofRanges [(0x20, 0x20)])).union (.ofStretches Unicode.Property.graphemeExtend)

/-- The text of one character between quotes. -/
def quoteChar (c : Char) : List Char :=
  match c with
  | '\x00' => ['\\', '0']
  | '\t' => ['\\', 't']
  | '\r' => ['\\', 'r']
  | '\n' => ['\\', 'n']
  | '\\' => ['\\', '\\']
  | '"' => ['\\', '"']
  | c =>
    if shapeless.contains c.toNat then
      ['\\', 'u', '\x7b'] ++ Nat.toDigits 16 c.toNat ++ ['\x7d']
    else [c]

/-- A text in quotes. -/
def quote (s : String) : String :=
  "\"" ++ String.ofList (s.toList.flatMap quoteChar) ++ "\""

/-- Texts in quotes, with commas between them, in brackets. -/
def quoteAll (items : List String) : String :=
  "[" ++ ", ".intercalate (items.map quote) ++ "]"

end Text

end Chatflow
