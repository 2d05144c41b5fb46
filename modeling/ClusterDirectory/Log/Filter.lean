import ClusterDirectory.Notice
import ClusterDirectory.Text.Blank

/-!
Which notices are written to the log.

A filter is a list of directives with commas between them. A directive names a level, a part of the
service, or a part and its level after an equals sign; a part without a level is written in full. Of
the directives whose part a notice comes from, the one with the longest name decides, and of two
with the same name the later one; a notice that none covers is not written.
-/

namespace ClusterDirectory.Log

def filterVariable : String := "RUST_LOG"

structure Directive where
  target : Option String
  rank : Nat
  deriving DecidableEq, Repr

abbrev Filter := List Directive

def lower (s : String) : String := s.map Char.toLower

def rank? (s : String) : Option Nat :=
  if lower s = "off" then some 0
  else match Level.all.find? (fun l => lower l.name == lower s) with
    | some l => some l.rank
    | none => (Text.readNumber? 5 s)

def isTargetStart (c : Char) : Bool := c.isAlphanum || c == '-' || c == ':' || c == '_'

/-- One directive, `none` when it has none of the forms. One with a bracket is about spans of work,
of which the service has none, and covers nothing. -/
def Directive.parse? (text : String) : Option (List Directive) :=
  let s := (text.toList.dropWhile Text.isBlank).reverse.dropWhile Text.isBlank |>.reverse
  match s with
  | [] => some [⟨some "", Level.trace.rank⟩]
  | c :: _ =>
      if s.contains '[' then some []
      else if !isTargetStart c then none
      else
        let target := s.takeWhile (· != '=')
        match s.dropWhile (· != '=') with
        | [] =>
            match rank? (String.ofList target) with
            | some rank => some [⟨none, rank⟩]
            | none => some [⟨some (String.ofList target), Level.trace.rank⟩]
        | _ :: level =>
            if level.isEmpty then some [⟨some (String.ofList target), Level.trace.rank⟩]
            else (rank? (String.ofList level)).map fun rank => [⟨some (String.ofList target), rank⟩]

def splitAtCommas (s : List Char) : List (List Char) :=
  s.foldr (fun c parts => match c, parts with
    | ',', parts => [] :: parts
    | c, part :: parts => (c :: part) :: parts
    | c, [] => [[c]]) [[]]

def Filter.parse? (text : String) : Option Filter := do
  let parts := (splitAtCommas text.toList).filter (!·.isEmpty)
  let directives ← parts.mapM fun p => Directive.parse? (String.ofList p)
  match directives.flatten with
  | [] => return [⟨none, Level.error.rank⟩]
  | ds => return ds

def info : Filter := [⟨none, Level.info.rank⟩]

def Filter.ofSetting (text : Option String) : Filter := (text.bind Filter.parse?).getD info

def Directive.covers (d : Directive) (target : String) : Bool :=
  match d.target with
  | none => true
  | some t => t.toList.isPrefixOf target.toList

def Directive.length (d : Directive) : Nat :=
  match d.target with
  | none => 0
  | some t => t.length + 1

/-- The later of two directives, unless the earlier one has the longer name. -/
def Directive.prefer (d : Option Directive) (e : Directive) : Option Directive :=
  match d with
  | none => some e
  | some d => if e.length < d.length then some d else some e

def Filter.admits (f : Filter) (n : Notice) : Bool :=
  match (f.filter (·.covers n.area.target)).foldl Directive.prefer none with
  | some d => n.level.rank ≤ d.rank
  | none => false

def line (n : Notice) : String := s!"{n.level.name} {n.area.target}: {n.message}"

end ClusterDirectory.Log
