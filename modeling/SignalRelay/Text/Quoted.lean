import SignalRelay.Text.Printable

namespace SignalRelay

/-!
# Quoted text

The form in which a text is named inside a report: between double quotes, with a
backslash before quotes and backslashes, short names for the common controls, and the
code point in braces for every other character that cannot be shown.
-/

namespace Quoted

/-- The digits of a code point in lower-case hexadecimal. -/
def hexDigits (value : Nat) : List Char :=
  Nat.toDigits 16 value

/-- The quoted form of one character. -/
def quoteChar (c : Char) : List Char :=
  match c with
  | '\x00' => ['\\', '0']
  | '\t' => ['\\', 't']
  | '\r' => ['\\', 'r']
  | '\n' => ['\\', 'n']
  | '"' => ['\\', '"']
  | '\\' => ['\\', '\\']
  | _ =>
      if Printable.isPrintable c then
        [c]
      else
        ['\\', 'u', '{'] ++ hexDigits c.toNat ++ ['}']

/-- A text between quotes. -/
def quote (text : String) : String :=
  String.ofList (['"'] ++ text.toList.flatMap quoteChar ++ ['"'])

end Quoted

end SignalRelay
