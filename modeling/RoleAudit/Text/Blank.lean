/-!
# Blanks

Blank characters, and the operations that look only at them:

- `isBlank`: white space in the wide sense: the separators of Unicode, the controls from tab to
  carriage return, the four information separators and the next-line control;
- `strip`: a text without the blanks at its ends;
- `squeeze`: a text without any blank.

The zero-width space and the byte order mark are not blank.
-/

namespace RoleAudit
namespace Text

/-- White space, the information separators U+001C to U+001F and the next-line control included. -/
def isBlank (c : Char) : Bool :=
  let n := c.toNat
  (9 ≤ n && n ≤ 13) || (28 ≤ n && n ≤ 32) || n == 0x85 || n == 0xa0 || n == 0x1680 ||
    (0x2000 ≤ n && n ≤ 0x200a) || n == 0x2028 || n == 0x2029 || n == 0x202f || n == 0x205f ||
    n == 0x3000

/-- Drop the characters of a class from both ends. -/
def trimOf (p : Char → Bool) (cs : List Char) : List Char :=
  ((cs.dropWhile p).reverse.dropWhile p).reverse

def trim (cs : List Char) : List Char :=
  trimOf isBlank cs

def strip (s : String) : String :=
  String.ofList (trim s.toList)

def squeeze (s : String) : String :=
  String.ofList (s.toList.filter fun c => !isBlank c)

@[simp]
theorem toList_strip (s : String) : (strip s).toList = trim s.toList := by
  simp [strip]

@[simp]
theorem toList_squeeze (s : String) :
    (squeeze s).toList = s.toList.filter fun c => !isBlank c := by
  simp [squeeze]

end Text
end RoleAudit
