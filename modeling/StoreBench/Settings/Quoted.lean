import StoreBench.Crash
import StoreBench.Toml.Syntax

namespace StoreBench.Quoted

/-! Texts in double quotes, as values of the environment hold them. Between the quotes
stand shown characters and escapes. Where the first escape begins, the text before it is
cut to as many bytes as it has characters, so nothing is lost of a text whose characters
up to there are all of one byte. -/

def untilQuote? : List Char → Option (List Char × List Char)
  | [] => none
  | '"' :: rest => some ([], rest)
  | '\\' :: next :: rest => (untilQuote? rest).map fun (content, after) =>
      ('\\' :: next :: content, after)
  | character :: rest => (untilQuote? rest).map fun (content, after) =>
      (character :: content, after)

example : untilQuote? "a\\\"b\"c".toList = some ("a\\\"b".toList, ['c']) := by decide

/-- The characters that end within the first `bytes` bytes of a text. A count that ends
inside a character stops the run. -/
def takeBytes (bytes : Nat) (characters : List Char) : Except Crash (List Char) :=
  fromOffset 0 characters
where
  fromOffset (offset : Nat) : List Char → Except Crash (List Char)
    | [] => .ok []
    | character :: rest =>
        if bytes ≤ offset then .ok []
        else if bytes < offset + character.utf8Size then
          .error (.insideCharacter bytes character offset)
        else (fromOffset (offset + character.utf8Size) rest).map (character :: ·)

example : takeBytes 2 ['é', 'a'] = .ok ['é'] := rfl

example : takeBytes 1 ['é', 'a'] = .error (.insideCharacter 1 'é' 0) := rfl

/-- The text that content stands for. There is none if it holds a control character other
than the tab, or a backslash that starts no escape. -/
def unescape (content : List Char) : Except Crash (Option (List Char)) :=
  let plain := content.takeWhile (· ≠ '\\')
  if !plain.all Toml.isShown then .ok none
  else match content.drop plain.length with
    | [] => .ok (some plain)
    | escapes => do
        let kept ← takeBytes plain.length plain
        let plainChar (character : Char) : Bool := Toml.isShown character && character ≠ '\\'
        let piece := Toml.escape <|> Reader.satisfy plainChar
        return (Reader.readAll? (Reader.manyAll piece) (String.ofList escapes)).map (kept ++ ·)

example : unescape "a\\tb".toList = .ok (some "a\tb".toList) := by rfl

example : unescape "日本語\\tb".toList = .ok (some "日\tb".toList) := by rfl

example : unescape "\\x".toList = .ok none := by rfl

end StoreBench.Quoted
