/-!
# Text out of bytes

Bytes are read as UTF-8 into glyphs: a glyph is a character, or the absence of one
where a byte belongs to no character. A text that is valid throughout has its
characters as glyphs; in any other text the stray bytes stay visible as gaps, so a
reader can meet them in order, after whatever comes before them.
-/

namespace ClusterEvents

-- The empty sum is the numeral zero, whatever else is imported.
attribute [local instance (high)] Zero.ofOfNat0

/-- A sequence of bytes. -/
abbrev Bytes := List UInt8

namespace Bytes

/-- The UTF-8 bytes of a string. -/
def ofString (s : String) : Bytes :=
  s.toUTF8.data.toList

/-- The string whose UTF-8 bytes these are, if they are valid. -/
def toString? (bytes : Bytes) : Option String :=
  String.fromUTF8? ⟨bytes.toArray⟩

end Bytes

/-- A character, or a byte that is part of none. -/
abbrev Glyph := Option Char

/-- A text as it lies before a reader. -/
abbrev Glyphs := List Glyph

namespace Glyphs

/-- The glyphs of a string are its characters. -/
def ofString (s : String) : Glyphs :=
  s.toList.map some

/-- Whether a byte continues a character. -/
def isTail (b : UInt8) : Bool :=
  0x80 ≤ b && b ≤ 0xBF

/-- Whether a second byte may follow the first byte of a character of three or four
bytes; this leaves out overlong forms, surrogates, and what lies beyond the last
code point. -/
def mayFollow (first second : UInt8) : Bool :=
  if first = 0xE0 then 0xA0 ≤ second && second ≤ 0xBF
  else if first = 0xED then 0x80 ≤ second && second ≤ 0x9F
  else if first = 0xF0 then 0x90 ≤ second && second ≤ 0xBF
  else if first = 0xF4 then 0x80 ≤ second && second ≤ 0x8F
  else isTail second

/-- The payload bits of a byte that continues a character. -/
def tailBits (b : UInt8) : Nat :=
  b.toNat % 64

/-- Reads bytes one character at a time; a byte that starts no character is a gap,
and reading goes on with the byte after it. -/
def scan : Bytes → Glyphs
  | [] => []
  | a :: rest =>
    if a < 0x80 then some (Char.ofNat a.toNat) :: scan rest
    else match rest with
      | b :: rest₁ =>
        if 0xC2 ≤ a && a ≤ 0xDF && isTail b then
          some (Char.ofNat (a.toNat % 32 * 64 + tailBits b)) :: scan rest₁
        else match rest₁ with
          | c :: rest₂ =>
            if 0xE0 ≤ a && a ≤ 0xEF && mayFollow a b && isTail c then
              some (Char.ofNat (a.toNat % 16 * 4096 + tailBits b * 64 + tailBits c))
                :: scan rest₂
            else match rest₂ with
              | d :: rest₃ =>
                if 0xF0 ≤ a && a ≤ 0xF4 && mayFollow a b && isTail c && isTail d then
                  some (Char.ofNat (a.toNat % 8 * 262144 + tailBits b * 4096
                    + tailBits c * 64 + tailBits d)) :: scan rest₃
                else none :: scan (b :: c :: d :: rest₃)
              | [] => none :: scan [b, c]
          | [] => none :: scan [b]
      | [] => [none]
termination_by bytes => bytes.length

/-- The glyphs of a sequence of bytes. -/
def ofBytes (bytes : Bytes) : Glyphs :=
  match bytes.toString? with
  | some s => ofString s
  | none => scan bytes

/-- The number of bytes a glyph takes up. -/
def glyphSize : Glyph → Nat
  | none => 1
  | some c => c.utf8Size

/-- The number of bytes a text takes up. -/
def byteSize (text : Glyphs) : Nat :=
  (text.map glyphSize).sum

end Glyphs

end ClusterEvents
