import ClusterDirectory.Json.Value
import ClusterDirectory.Number.Shortest
import ClusterDirectory.Text.Hex

namespace ClusterDirectory.Json

/-- All places are shown from a hundred-thousandth up to sixteen digits before the point. -/
def numberLayout : Binary64.Layout := ⟨-5, 15⟩

def numberText : JsonNumber → List Char
  | .whole n => (toString n).toList
  | .real x => x.text numberLayout

def escape (c : Char) : List Char :=
  match c with
  | '\x22' => ['\\', '\x22']
  | '\\' => ['\\', '\\']
  | '\x08' => ['\\', 'b']
  | '\x0c' => ['\\', 'f']
  | '\n' => ['\\', 'n']
  | '\r' => ['\\', 'r']
  | '\t' => ['\\', 't']
  | c =>
      if c.toNat < 0x20 then
        ['\\', 'u', '0', '0', Nat.digitChar (c.toNat / 16), Nat.digitChar (c.toNat % 16)]
      else [c]

def quote (s : String) : List Char := '\x22' :: s.toList.flatMap escape ++ ['\x22']

def bracketed (opening closing : Char) (parts : List (List Char)) : List Char :=
  opening :: (parts.intersperse [',']).flatten ++ [closing]

def member (key : String) (value : List Char) : List Char := quote key ++ ':' :: value

mutual

def render : Json → List Char
  | .null => "null".toList
  | .bool b => if b then "true".toList else "false".toList
  | .number n => numberText n
  | .text s => quote s
  | .list items => bracketed '[' ']' (renderItems items)
  | .object members => bracketed '\x7b' '\x7d' (renderMembers members)

def renderItems : List Json → List (List Char)
  | [] => []
  | v :: vs => render v :: renderItems vs

def renderMembers : List (String × Json) → List (List Char)
  | [] => []
  | m :: ms => member m.1 (render m.2) :: renderMembers ms

end

end ClusterDirectory.Json
