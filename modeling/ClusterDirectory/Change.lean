import ClusterDirectory.Resource.Printer

namespace ClusterDirectory

inductive Operation
  | add
  | update
  | delete
  deriving DecidableEq, Repr, Inhabited

namespace Operation

def all : List Operation := [.add, .update, .delete]

def name : Operation → String
  | .add => "add"
  | .update => "update"
  | .delete => "delete"

def ofName? (name : String) : Option Operation := all.find? (·.name == name)

end Operation

structure Change where
  operation : Operation
  resource : Resource
  deriving Inhabited

namespace Change

def same (a b : Change) : Bool := a.operation == b.operation && a.resource.same b.resource

def json (c : Change) : Json :=
  .object [("operation", .text c.operation.name), ("resource", c.resource.json)]

def render (c : Change) : String := String.ofList c.json.render

end Change

end ClusterDirectory
