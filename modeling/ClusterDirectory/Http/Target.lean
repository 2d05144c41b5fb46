import ClusterDirectory.Text.Percent

/-!
Request targets: a path alone, or a whole address of which only the path matters.

A target is looked at by its bytes, so that its length counts them, and any character outside ASCII
may stand in a path. A query and a fragment may follow the path and are dropped. A target without a
leading slash is the name of a host, with an empty path, unless a scheme stands in front.
-/

namespace ClusterDirectory.Http

structure Target where
  path : List Char
  deriving DecidableEq, Repr

namespace Target

inductive Defect
  | empty
  | tooLong
  | badCharacter
  | schemeTooLong
  | badAuthority
  | badFormat
  deriving DecidableEq, Repr

def Defect.message : Defect → String
  | .empty => "empty string"
  | .tooLong => "uri too long"
  | .badCharacter => "invalid uri character"
  | .schemeTooLong => "scheme too long"
  | .badAuthority => "invalid authority"
  | .badFormat => "invalid format"

def lengthLimit : Nat := 65534

def schemeLimit : Nat := 64

def isPathChar (c : Char) : Bool :=
  let n := c.toNat
  0x21 ≤ n && !"#<>?`".toList.contains c

def isQueryChar (c : Char) : Bool :=
  let n := c.toNat
  0x21 ≤ n && !"\x22#<>".toList.contains c

def endsPath (c : Char) : Bool := c == '?' || c == '#'

def readPath (s : List Char) : Except Defect (List Char) :=
  let path := s.takeWhile (!endsPath ·)
  let query := match s.dropWhile (!endsPath ·) with
    | '?' :: r => r.takeWhile (· != '#')
    | _ => []
  if path.all isPathChar && query.all isQueryChar then .ok path else .error .badCharacter

def isSchemeChar (c : Char) : Bool := c.isAlphanum || "+-.".toList.contains c

def isHostChar (c : Char) : Bool := c.isAlphanum || "!$&'()*+,-.:;=@[]_~".toList.contains c

/-- What follows the scheme and its two slashes, if there is a scheme. Three characters are too few
for one. -/
def afterScheme? (s : List Char) : Except Defect (Option (List Char)) :=
  let scheme := s.takeWhile isSchemeChar
  match s.dropWhile isSchemeChar with
  | ':' :: '/' :: '/' :: r =>
      if s.length ≤ 3 then .ok none
      else if schemeLimit < scheme.length then .error .schemeTooLong
      else .ok (some r)
  | _ => .ok none

/-- What has been seen of the name of a host: the colons of a port, brackets, percent signs outside
the part in front of `@`, and whether `@` came last. -/
structure HostScan where
  colons : Nat := 0
  opened : Bool := false
  closed : Bool := false
  percent : Bool := false
  afterAt : Bool := false

def colonLimit : Nat := 8

def HostScan.add (h : HostScan) (c : Char) : Except Defect HostScan :=
  let h := { h with afterAt := c == '@' }
  match c with
  | ':' =>
      if h.colons < colonLimit then .ok { h with colons := h.colons + 1 } else .error .badAuthority
  | '[' => if h.percent || h.opened then .error .badAuthority else .ok { h with opened := true }
  | ']' =>
      if !h.opened || h.closed then .error .badAuthority
      else .ok { h with closed := true, colons := 0, percent := false }
  | '@' => .ok { h with colons := 0, percent := false }
  | '%' => .ok { h with percent := true }
  | c => if isHostChar c then .ok h else .error .badCharacter

def endsHost (c : Char) : Bool := c == '/' || endsPath c

def afterHost (s : List Char) : Except Defect (List Char) := do
  let h ← (s.takeWhile (!endsHost ·)).foldlM HostScan.add {}
  if h.opened != h.closed || 1 < h.colons || h.afterAt || h.percent then .error .badAuthority
  else return s.dropWhile (!endsHost ·)

def parse (text : String) : Except Defect Target := do
  let s := text.toList
  if lengthLimit < (Text.bytes text).length then .error .tooLong
  match s with
  | [] => .error .empty
  | ['*'] => return ⟨s⟩
  | '/' :: _ => return ⟨← readPath s⟩
  | _ =>
      match ← afterScheme? s with
      | none =>
          if (← afterHost s).isEmpty then return ⟨[]⟩
          else if s.length = 1 then .error .badCharacter
          else .error .badFormat
      | some [] => .error .empty
      | some r =>
          let path ← afterHost r
          if path.length = r.length then .error .badFormat
          let path ← readPath path
          return ⟨if path.isEmpty then ['/'] else path⟩

end Target

end ClusterDirectory.Http
