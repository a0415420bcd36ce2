import Descent.Text.Printable

namespace Descent.Text

def hexDigit (n : Nat) : Char :=
  if n < 10 then Char.ofNat (0x30 + n) else Char.ofNat (0x57 + n)

-- The last `width` hexadecimal digits of `n`, most significant first.
def hexDigits : Nat → Nat → Text
  | 0, _ => []
  | width + 1, n => hexDigits width (n / 16) ++ [hexDigit (n % 16)]

-- The double quote delimits only a text that holds single quotes and no double ones.
def delimiter (t : Text) : Char :=
  if t.contains '\'' && !t.contains '"' then '"' else '\''

def escape (delim c : Char) : Text :=
  if c = delim || c = '\\' then ['\\', c]
  else if c = '\n' then ['\\', 'n']
  else if c = '\r' then ['\\', 'r']
  else if c = '\t' then ['\\', 't']
  else if isPrintable c then [c]
  else if c.toNat < 0x100 then '\\' :: 'x' :: hexDigits 2 c.toNat
  else if c.toNat < 0x10000 then '\\' :: 'u' :: hexDigits 4 c.toNat
  else '\\' :: 'U' :: hexDigits 8 c.toNat

def quote (t : Text) : Text :=
  let delim := delimiter t
  delim :: t.flatMap (escape delim) ++ [delim]

-- Delimiters around the text, and an escape for every character that would not be seen, that would
-- end the text, or that begins an escape.
def quoted (t : Text) : String :=
  String.ofList (quote t)

end Descent.Text
