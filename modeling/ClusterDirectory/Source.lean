import ClusterDirectory.Directory

namespace ClusterDirectory

/-- A view of the cluster kept by someone else. Only the look-up of a node by name can fail. -/
structure LiveView where
  address? : Address → Option Resource
  node? : String → Except Failure (Option Resource)

namespace LiveView

/-- The first resource of a list that has the address, and its first node that has the name; with an
outage, no name can be looked up. -/
def ofResources (resources : List Resource) (outage : Option String) : LiveView where
  address? a := resources.find? (a ∈ ·.addresses)
  node? name := match outage with
    | some text => .error (.liveView text)
    | none => .ok (resources.find? fun r => r.isNode && r.name == name)

end LiveView

inductive Source
  | live (view : LiveView)
  | stream (directory : Directory)

namespace Source

def mode : Source → String
  | .live _ => "live-view"
  | .stream _ => "stream-cache"

def directory? : Source → Option Directory
  | .live _ => none
  | .stream d => some d

def address? (s : Source) (a : Address) : Option Resource :=
  match s with
  | .live view => view.address? a
  | .stream d => d.address? a

def node? (s : Source) (name : String) : Except Failure (Option Resource) :=
  match s with
  | .live view => view.node? name
  | .stream d => .ok (d.node? name)

end Source

end ClusterDirectory
