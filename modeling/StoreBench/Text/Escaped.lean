import StoreBench.Text.Printable

namespace StoreBench

/-! Text in quotes, with escapes for quotes, backslashes and what does not print. -/

def escapedChar (character : Char) : List Char :=
  match character with
  | '"' => ['\\', '"']
  | '\\' => ['\\', '\\']
  | '\t' => ['\\', 't']
  | '\n' => ['\\', 'n']
  | '\r' => ['\\', 'r']
  | '\x00' => ['\\', '0']
  | _ =>
      if isPrintable character then [character]
      else "\\u\x7b".toList ++ Nat.toDigits 16 character.toNat ++ ['\x7d']

def escaped (text : String) : String :=
  String.ofList ('"' :: (text.toList.flatMap escapedChar ++ ['"']))

example : escaped "a\"b" = "\"a\\\"b\"" := by decide +kernel

end StoreBench
