/-!
# White space at the ends of a text

White space is the property White_Space of the Unicode standard, so a text that consists of
no-break spaces or of ideographic spaces is blank as well. `Text.trim` cuts white space at both
ends and leaves the middle alone; a text is blank when nothing is left of it.
-/

namespace RoleAccess.Text

/-- The characters with the property White_Space. -/
def isBlank (c : Char) : Bool :=
  let n := c.toNat
  (9 ≤ n && n ≤ 13) || n == 0x20 || n == 0x85 || n == 0xA0 || n == 0x1680 ||
    (0x2000 ≤ n && n ≤ 0x200A) || n == 0x2028 || n == 0x2029 || n == 0x202F || n == 0x205F ||
    n == 0x3000

/-- Every character that core counts as white space is blank. -/
theorem isBlank_of_isWhitespace {c : Char} (h : c.isWhitespace = true) : isBlank c = true := by
  simp only [Char.isWhitespace, Bool.or_eq_true, decide_eq_true_eq] at h
  rcases h with ((rfl | rfl) | rfl) | rfl <;> decide

/-- What is left of a text once the white space at its two ends is gone. -/
def trimChars (cs : List Char) : List Char :=
  ((cs.dropWhile isBlank).reverse.dropWhile isBlank).reverse

def trim (s : String) : String :=
  String.ofList (trimChars s.toList)

def isAllBlank (s : String) : Bool :=
  s.toList.all isBlank

/-- A capital ASCII letter becomes small; no other character changes. -/
def lowerAscii (c : Char) : Char :=
  if 'A' ≤ c ∧ c ≤ 'Z' then Char.ofNat (c.toNat + 32) else c

/-- Two texts that differ at most in the case of ASCII letters. -/
def sameAscii (a b : String) : Bool :=
  a.toList.map lowerAscii == b.toList.map lowerAscii

end RoleAccess.Text
