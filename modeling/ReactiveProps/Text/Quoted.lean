import ReactiveProps.Text.Printable

/-!
# Quoted text

Text in quotes for messages. Single quotes are used unless the text holds a single quote and no
double quote; what has no printed form is written as an escape.
-/
namespace ReactiveProps.Text

/-- A number in lower-case hexadecimal, with leading zeros up to a width. -/
def hex (width value : Nat) : String :=
  let digits := Nat.toDigits 16 value
  String.ofList (List.replicate (width - digits.length) '0' ++ digits)

def singleQuote : Char := Char.ofNat 0x27
def doubleQuote : Char := Char.ofNat 0x22
def backslash : Char := Char.ofNat 0x5C

def quoteFor (text : String) : Char :=
  if text.toList.contains singleQuote && !text.toList.contains doubleQuote then doubleQuote
  else singleQuote

def escaped (quote c : Char) : String :=
  if c = quote ∨ c = backslash then String.ofList [backslash, c]
  else if c = '\t' then "\\t"
  else if c = '\n' then "\\n"
  else if c = '\r' then "\\r"
  else if isPrintable c then c.toString
  else if c.toNat < 0x100 then "\\x" ++ hex 2 c.toNat
  else if c.toNat < 0x10000 then "\\u" ++ hex 4 c.toNat
  else "\\U" ++ hex 8 c.toNat

def quoted (text : String) : String :=
  let quote := quoteFor text
  quote.toString ++ String.join (text.toList.map (escaped quote)) ++ quote.toString

end ReactiveProps.Text
