import ClusterDirectory.Text.Alphanumeric
import ClusterDirectory.Text.Blank
import ClusterDirectory.Text.Utf8

/-!
Variables set in a file, for an environment that does not have them.

Each line sets one variable: a key, an equals sign and a value, with `export` in front or not. A
value may stand in quotes and go over several lines then; between single quotes every character
stands for itself. Elsewhere a backslash escapes one of a few characters, and a dollar sign stands
before the name of a variable whose value is put in its place. The first line that has another form,
or is no text, ends the reading; the lines before it count.
-/

namespace ClusterDirectory.DotEnv

open Text

abbrev Environment := String → Option String

/-- The lines of a file, each with its line feed, up to the first one that is no text. -/
def physicalLines (s : List UInt8) : List (List Char) :=
  go [] s
where
  go (before : List UInt8) : List UInt8 → List (List Char)
    | [] => if before.isEmpty then [] else (Utf8.decode? before.reverse).toList
    | b :: r =>
        if b = 0x0A then
          match Utf8.decode? (b :: before).reverse with
          | some line => line :: go [] r
          | none => []
        else go (b :: before) r

inductive Openness
  | complete
  | escape
  | single
  | singleEscape
  | double
  | doubleEscape
  | space
  deriving DecidableEq, Repr

def plain (c : Char) : Openness :=
  if c = '\\' then .escape
  else if c = '\x22' then .double
  else if c = '\x27' then .single
  else .complete

def isInnerSpace (c : Char) : Bool := isBlank c && c != '\n' && c != '\r'

def Openness.next (state : Openness) (c : Char) : Openness :=
  match state with
  | .space => plain c
  | .escape => .complete
  | .complete => if isInnerSpace c then .space else plain c
  | .double => if c = '\\' then .doubleEscape else if c = '\x22' then .complete else .double
  | .doubleEscape => .double
  | .single => if c = '\\' then .singleEscape else if c = '\x27' then .complete else .single
  | .singleEscape => .single

/-- The part of a line in front of a comment, and what stands open at its end; `none` when a comment
ends it. -/
def scan (state : Openness) : List Char → List Char × Option Openness
  | [] => ([], some state)
  | c :: r =>
      if state = .space ∧ c = '#' then ([], none)
      else
        let (kept, last) := scan (state.next c) r
        (c :: kept, last)

def isComment (line : List Char) : Bool := (line.dropWhile isBlank).head? == some '#'

def dropLineEnd (line : List Char) : List Char :=
  match line.reverse with
  | '\n' :: '\r' :: r => r.reverse
  | '\n' :: r => r.reverse
  | r => r.reverse

/-- The lines with those put together that a quote keeps open; one that is never closed is left out
with all that follows. -/
def logicalLines (state : Openness) (before : List Char) : List (List Char) → List (List Char)
  | [] => []
  | line :: rest =>
      let whole := before ++ line
      if isComment whole then [] :: logicalLines .complete [] rest
      else
        match scan state line with
        | (kept, none) => (before ++ kept) :: logicalLines .complete [] rest
        | (_, some .complete) => dropLineEnd whole :: logicalLines .complete [] rest
        | (_, some state) => logicalLines state whole rest

inductive Quote
  | none
  | single
  | double
  deriving DecidableEq, Repr

inductive Naming
  | outside
  | bare
  | braced
  deriving DecidableEq, Repr

/-- What has been read of a value; `name` and `text` stand last character first. -/
structure Progress where
  quote : Quote := .none
  escaped : Bool := false
  ended : Bool := false
  naming : Naming := .outside
  name : List Char := []
  text : List Char := []

def Progress.substitute (value : String → String) (p : Progress) : Progress :=
  { p with
    name := []
    text := (value (String.ofList p.name.reverse)).toList.reverse ++ p.text }

def Progress.push (p : Progress) (c : Char) : Progress := { p with text := c :: p.text }

def Progress.finish? (value : String → String) (p : Progress) : Option String :=
  if p.naming = .braced ∨ p.quote ≠ .none then none
  else some (String.ofList (p.substitute value).text.reverse)

def escaped? (c : Char) : Option Char :=
  if "\\'\x22$ ".toList.contains c then some c else if c = 'n' then some '\n' else none

def Progress.addToName (value : String → String) (p : Progress) (c : Char) : Progress :=
  if isAlphanumeric c then { p with name := c :: p.name }
  else
    match p.naming with
    | .braced =>
        if c = '\x7d' then { p.substitute value with naming := .outside }
        else { p with name := c :: p.name }
    | _ =>
        if c = '\x7b' ∧ p.name = [] then { p with naming := .braced }
        else if c = '$' then { p.substitute value with naming := .bare }
        else { p.substitute value with naming := .outside }.push c

def Progress.addPlain (p : Progress) (c : Char) : Progress :=
  if c = '$' then { p with naming := .bare }
  else if c = '\\' then { p with escaped := true }
  else
    match p.quote with
    | .double => if c = '\x22' then { p with quote := .none } else p.push c
    | _ =>
        if c = '\x27' then { p with quote := .single }
        else if c = '\x22' then { p with quote := .double }
        else if c = ' ' ∨ c = '\t' then { p with ended := true }
        else p.push c

def readValue? (value : String → String) (p : Progress) : List Char → Option String
  | [] => p.finish? value
  | c :: r =>
      if p.ended then
        if c = ' ' ∨ c = '\t' then readValue? value p r
        else if c = '#' then p.finish? value
        else none
      else if p.escaped then
        match escaped? c with
        | some d => readValue? value ({ p with escaped := false }.push d) r
        | none => none
      else if p.quote = .single then
        if c = '\x27' then readValue? value { p with quote := .none } r
        else readValue? value (p.push c) r
      else if p.naming ≠ .outside then readValue? value (p.addToName value c) r
      else readValue? value (p.addPlain c) r

def skipBlank (s : List Char) : List Char := s.dropWhile isBlank

def isKeyStart (c : Char) : Bool := c.isAlpha || c == '_'

def isKeyChar (c : Char) : Bool := c.isAlphanum || c == '_' || c == '.'

def readKey? (s : List Char) : Option (String × List Char) :=
  match s with
  | c :: _ =>
      if isKeyStart c then some (String.ofList (s.takeWhile isKeyChar), s.dropWhile isKeyChar)
      else none
  | [] => none

def readEquals? : List Char → Option (List Char)
  | '=' :: r => some r
  | _ => none

/-- A key and what follows its equals sign. `export` is a key when an equals sign follows it. -/
def readAssigned? (s : List Char) : Option (String × List Char) := do
  let (key, r) ← readKey? s
  match readEquals? (skipBlank r) with
  | some r => return (key, r)
  | none =>
      if key = "export" then do
        let (key, r) ← readKey? (skipBlank r)
        return (key, ← readEquals? (skipBlank r))
      else none

inductive Line
  | nothing
  | assign (key value : String)
  | malformed

def parseLine (value : String → String) (line : List Char) : Line :=
  let s := skipBlank (line.reverse.dropWhile isBlank).reverse
  if s.isEmpty || s.head? == some '#' then .nothing
  else
    match readAssigned? s with
    | none => .malformed
    | some (key, r) =>
        let r := skipBlank r
        if r.isEmpty || r.head? == some '#' then .assign key ""
        else
          match readValue? value {} r with
          | some v => .assign key v
          | none => .malformed

def set (env : Environment) (key value : String) : Environment :=
  fun k => if k = key then some value else env k

/-- Take over the assignments of the lines, those of variables that the environment has excepted;
`file` holds the values that the file gives, for names that the environment does not have. -/
def loadLines (env file : Environment) : List (List Char) → Environment
  | [] => env
  | line :: rest =>
      match parseLine (fun name => ((env name).or (file name)).getD "") line with
      | .nothing => loadLines env file rest
      | .malformed => env
      | .assign key v =>
          loadLines (if (env key).isSome then env else set env key v) (set file key v) rest

def dropMark (s : List UInt8) : List UInt8 :=
  match s with
  | 0xEF :: 0xBB :: 0xBF :: r => r
  | s => s

def load (env : Environment) (file : List UInt8) : Environment :=
  loadLines env (fun _ => none) (logicalLines .complete [] (physicalLines (dropMark file)))

end ClusterDirectory.DotEnv
