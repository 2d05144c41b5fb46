namespace ClusterDirectory.Http

inductive Method
  | get
  | head
  | other (name : String)
  deriving DecidableEq, Repr

namespace Method

def isNameChar (c : Char) : Bool := c.isAlphanum || "!#$%&'*+-.^_`|~".toList.contains c

def defectMessage : String := "invalid HTTP method"

def parse? (name : String) : Option Method :=
  if name.isEmpty || !name.toList.all isNameChar then none
  else if name = "GET" then some .get
  else if name = "HEAD" then some .head
  else some (.other name)

end Method

end ClusterDirectory.Http
