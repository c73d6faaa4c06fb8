import ExprLang.Text.GraphemeExtend
import ExprLang.Text.Letter
import ExprLang.Text.Unprintable

/-! Quoted forms for messages: characters that a reader could not see, or could
mistake for a part of the quoting, are written as escapes. -/
namespace ExprLang.Text

def codePointEscape (c : Char) : String :=
  "\\u\x7b" ++ String.ofList (Nat.toDigits 16 c.toNat) ++ "\x7d"

/-- Whether a character, written by itself, is lost on a reader: it is drawn onto the
character before it, or not at all. A letter that attaches, such as a halfwidth sound
mark, still has a place of its own. -/
def isObscure (c : Char) : Bool :=
  (extendsGrapheme c && !isLetter c) || isUnprintable c

def escape (quote c : Char) : String :=
  if c = '\x00' then "\\0"
  else if c = '\t' then "\\t"
  else if c = '\r' then "\\r"
  else if c = '\n' then "\\n"
  else if c = '\\' || c = quote then "\\" ++ c.toString
  else if isObscure c then codePointEscape c
  else c.toString

def quotedChar (c : Char) : String :=
  "'" ++ escape '\x27' c ++ "'"

def quotedText (text : String) : String :=
  "\"" ++ String.join (text.toList.map (escape '\x22')) ++ "\""

end ExprLang.Text
