/-
This file holds the two ways in which characters are written with backslashes: the escapes
that quoted strings use in parsed texts, which are resolved, and the form in which a message
shows a character that could not be seen, or would be mistaken for the quotes around it.
-/

import Rulebook.Unicode.Visible

namespace Rulebook.Text

/-- What the character after a backslash stands for. -/
def escaped? : Char → Option Char
  | 'b' => some '\x08'
  | 't' => some '\t'
  | 'n' => some '\n'
  | 'f' => some '\x0c'
  | 'r' => some '\r'
  | '\\' => some '\\'
  | '\'' => some '\''
  | '"' => some '"'
  | _ => none

/-- Resolve escapes. A backslash before any other character, or at the end, stays. -/
def unescapeChars : List Char → List Char
  | [] => []
  | ['\\'] => ['\\']
  | '\\' :: c :: rest =>
    match escaped? c with
    | some meant => meant :: unescapeChars rest
    | none => '\\' :: c :: unescapeChars rest
  | c :: rest => c :: unescapeChars rest

/-- Resolve the escapes of a text. -/
def unescape (text : String) : String :=
  String.ofList (unescapeChars text.toList)

/-- A number in lower-case hexadecimal digits. -/
def hexadecimal (number : Nat) : String :=
  String.ofList (Nat.toDigits 16 number)

/-- A character as a message shows it between single quotes. -/
def showChar (c : Char) : String :=
  match c with
  | '\x00' => "\\0"
  | '\t' => "\\t"
  | '\r' => "\\r"
  | '\n' => "\\n"
  | '\'' => "\\'"
  | '"' => "\\\""
  | '\\' => "\\\\"
  | c =>
    if Unicode.isExtending c || !Unicode.isPrintable c then
      "\\u\x7b" ++ hexadecimal c.toNat ++ "\x7d"
    else String.singleton c

end Rulebook.Text
