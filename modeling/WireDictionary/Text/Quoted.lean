import WireDictionary.Text.Extender
import WireDictionary.Text.Unprinted

/-! The quoted form of a text in messages. It stands between double quotes; quotes and backslashes
inside it, and every character that a reader of the message could not see, are written as an
escape. -/

namespace WireDictionary.Text.Quoted

/-- The escape by code point: the lowercase hexadecimal number between braces. -/
def codeEscape (c : Char) : List Char :=
  ['\\', 'u', '{'] ++ Nat.toDigits 16 c.toNat ++ ['}']

/-- How one character is written. -/
def encodeChar (c : Char) : List Char :=
  if c = '"' then ['\\', '"']
  else if c = '\\' then ['\\', '\\']
  else if c = '\t' then ['\\', 't']
  else if c = '\n' then ['\\', 'n']
  else if c = '\r' then ['\\', 'r']
  else if c = '\x00' then ['\\', '0']
  else if isExtender c || isUnprinted c then codeEscape c
  else [c]

/-- The quoted form of a text. -/
def encode (text : String) : String :=
  String.ofList ('"' :: text.toList.flatMap encodeChar ++ ['"'])

end WireDictionary.Text.Quoted
