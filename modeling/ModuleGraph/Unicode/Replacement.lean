/-
This file replaces the characters of a domain name by those that it is compared by: small letters,
usual shapes, and one way to write each letter with its marks.
-/

import ModuleGraph.Text
import ModuleGraph.Unicode.Composition
import ModuleGraph.Unicode.DomainChars
import ModuleGraph.Unicode.Replacement.Ideographs
import ModuleGraph.Unicode.Replacement.Letters
import ModuleGraph.Unicode.Replacement.Sequences

namespace ModuleGraph.Unicode

/-- The characters that are left out of a domain name. -/
def ignored : CharSet :=
  ⟨[(0xAD, 0xAD), (0x34F, 0x34F), (0x180B, 0x180D), (0x180F, 0x180F), (0x200B, 0x200B),
    (0x2060, 0x2060), (0x2064, 0x2064), (0xFE00, 0xFE0F), (0xFEFF, 0xFEFF), (0x1BCA0, 0x1BCA3),
    (0xE0100, 0xE01EF)]⟩

/-- The one character that replaces another one. -/
def letter? (code : Nat) : Option Nat :=
  (shifts.findSome? (·.target? code)).or <|
    [alphabetLetters, arabicLetters, signLetters, radicals, ideographs, farIdeographs].findSome?
      (·.lookup code)

/-- The characters that replace another one, if there are several. -/
def sequence? (code : Nat) : Option (List Nat) :=
  [letterSequences, arabicSequences, signSequences].findSome? (·.lookup code)

/-- What replaces a character, if a domain name may hold it at all. -/
def replacement? (char : Char) : Option (List Nat) :=
  let code := char.toNat
  if code < 128 then some [char.toLower.toNat]
  else if domainChars.contains char then some [code]
  else if ignored.contains char then some []
  else ((letter? code).map fun target => [target]).or (sequence? code)

/-- The text with all characters replaced and composed. -/
def normalForm? (text : List Char) : Option (List Char) :=
  if Text.isAscii text then some (text.map Char.toLower)
  else
    (text.mapM replacement?).map fun codes => (composed codes.flatten).map Char.ofNat

end ModuleGraph.Unicode
