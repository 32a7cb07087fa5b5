import JobResults.Text.Quoted

/-!
  # Writing JSON

  A string is written with the short escapes where there are any, other control characters by
  their number, and all else as it is.
-/

namespace JobResults.Json

/-- A number below 256 in two hexadecimal digits. -/
def twoDigits (n : Nat) : List Char := [Nat.digitChar (n / 16), Nat.digitChar (n % 16)]

def escapeChar (c : Char) : List Char :=
  match c with
  | '"' => ['\\', '"']
  | '\\' => ['\\', '\\']
  | '\x08' => ['\\', 'b']
  | '\t' => ['\\', 't']
  | '\n' => ['\\', 'n']
  | '\x0c' => ['\\', 'f']
  | '\r' => ['\\', 'r']
  | c => if c.toNat < 0x20 then ['\\', 'u', '0', '0'] ++ twoDigits c.toNat else [c]

def string (s : String) : String := String.ofList ('"' :: s.toList.flatMap escapeChar ++ ['"'])

def strings (l : List String) : String := "[" ++ String.intercalate "," (l.map string) ++ "]"

end JobResults.Json
