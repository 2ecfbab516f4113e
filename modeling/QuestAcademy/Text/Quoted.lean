import QuestAcademy.Text.Hexadecimal
import QuestAcademy.Text.Hidden

namespace QuestAcademy.Text

private def openBrace : Char := Char.ofNat 0x7b

private def closeBrace : Char := Char.ofNat 0x7d

def quotedChar (c : Char) : List Char :=
  if c = '\x00' then ['\\', '0']
  else if c = '\t' then ['\\', 't']
  else if c = '\r' then ['\\', 'r']
  else if c = '\n' then ['\\', 'n']
  else if c = '\\' then ['\\', '\\']
  else if c = '"' then ['\\', '"']
  else if isHidden c then '\\' :: 'u' :: openBrace :: (hexDigits c.toNat ++ [closeBrace])
  else [c]

def quoted (s : String) : String :=
  String.ofList ('"' :: (s.toList.flatMap quotedChar ++ ['"']))

def quotedList (items : List String) : String :=
  "[" ++ ", ".intercalate (items.map quoted) ++ "]"

end QuestAcademy.Text
