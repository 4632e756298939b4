import Tabletop.Text.Printable

/-!
# Quoted text

Error texts show an offending word between quotes, with what cannot be
printed escaped. Apostrophes serve as quotes, unless the word holds an
apostrophe and no double quote; the quote in use and the backslash are
escaped by a backslash.
-/

namespace Tabletop.Text

namespace Quoted

/-- A number in base sixteen with zeros before it up to a width. -/
def hex (width n : Nat) : List Char :=
  let digits := Nat.toDigits 16 n
  List.replicate (width - digits.length) '0' ++ digits

/-- How one character is written between quotes. -/
def escape (quote c : Char) : List Char :=
  if c = quote ∨ c = '\\' then ['\\', c]
  else if c = '\n' then ['\\', 'n']
  else if c = '\r' then ['\\', 'r']
  else if c = '\t' then ['\\', 't']
  else if isPrintable c then [c]
  else if c.toNat < 0x100 then '\\' :: 'x' :: hex 2 c.toNat
  else if c.toNat < 0x10000 then '\\' :: 'u' :: hex 4 c.toNat
  else '\\' :: 'U' :: hex 8 c.toNat

/-- The quote that a text is put between. -/
def quoteFor (cs : List Char) : Char :=
  if cs.contains '\'' && !cs.contains '\"' then '\"' else '\''

/-- **A text between quotes.** -/
def encode (cs : List Char) : List Char :=
  let quote := quoteFor cs
  quote :: (cs.flatMap (escape quote) ++ [quote])

end Quoted

/-- A text between quotes, as it stands in an error text. -/
def quoted (s : String) : String :=
  String.ofList (Quoted.encode s.toList)

end Tabletop.Text
