import StoreBench.Text.Blank

namespace StoreBench.CommandLine

/-! A property on the command line: a key, an equals sign and a value. -/

/-- The key and the value, without blanks at their ends. The first equals sign
divides them, and the key must not be blank. -/
def readProperty? (text : String) : Option (String × String) :=
  let characters := text.toList
  let key := trimChars (characters.takeWhile (· ≠ '='))
  match characters.dropWhile (· ≠ '=') with
  | [] => none
  | _ :: value =>
      if key.isEmpty then none else some (String.ofList key, String.ofList (trimChars value))

example : readProperty? " table = a=b" = some ("table", "a=b") := by decide +kernel

end StoreBench.CommandLine
