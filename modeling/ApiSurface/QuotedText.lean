import ApiSurface.GeneralCategory

/-!
# Quoted text

Text between double quotes in which every character can be seen: characters that print nothing of
their own, or print on the character before, are written by their code.
-/

namespace ApiSurface.QuotedText

/-- Characters outside the mark categories that extend the character before them. -/
def otherExtenders : CharSet := .ofTexts
  ["9BE 9D7 B3E B57 BBE BD7 CC0 CC2 CC7-CC8 CCA-CCB CD5-CD6 D3E D57 DCF DDF 1715 1734 1B35 1B3B",
   "1B3D 1B43-1B44 1BAA 1BF2-1BF3 200C 302E-302F A953 A9C0 FF9E-FF9F 111C0 11235 1133E 1134D",
   "11357 113B8 113C2 113C5 113C7-113C9 113CF 114B0 114BD 115AF 116B6 11930 1193D 11F41",
   "16FF0-16FF1 1D165-1D166 1D16D-1D172 E0020-E007F"]

def blank : CharSet := .single ' '

open GeneralCategory in
def unseen : CharSet :=
  CharSet.diff (.unionAll [other, separator, nonspacingMark, enclosingMark, otherExtenders]) blank

def hexDigits (n : Nat) : List Char := Nat.toDigits 16 n

def escape (c : Char) : List Char :=
  if c = Char.ofNat 0 then ['\\', '0']
  else if c = '\t' then ['\\', 't']
  else if c = '\r' then ['\\', 'r']
  else if c = '\n' then ['\\', 'n']
  else if c = '"' ∨ c = '\\' then ['\\', c]
  else if unseen.mem c then ['\\', 'u', '\x7b'] ++ hexDigits c.toNat ++ ['\x7d']
  else [c]

def render (text : String) : String :=
  String.ofList (['"'] ++ text.toList.flatMap escape ++ ['"'])

end ApiSurface.QuotedText
