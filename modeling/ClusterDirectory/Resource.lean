import ClusterDirectory.Address
import ClusterDirectory.Json.Value

/-!
Resources: what the directory keeps about one resource of a cluster.

Only the kind, the name and the addresses matter to the directory. Every other field is carried
along as it came, and so are fields that have no place of their own (`extra`).
-/

namespace ClusterDirectory

inductive Kind
  | node
  | pod
  | service
  | other
  deriving DecidableEq, Repr, Inhabited

def Kind.name : Kind → String
  | .node => "Node"
  | .pod => "Pod"
  | .service => "Service"
  | .other => "Other"

def Kind.ofName (name : String) : Kind :=
  (([.node, .pod, .service] : List Kind).find? (·.name == name)).getD .other

structure Resource where
  kind : Kind
  name : String
  namespaceName : String := ""
  labels : KeyMap String := .empty
  annotations : KeyMap String := .empty
  ownerName : String := ""
  ownerKind : String := ""
  hostName : String := ""
  hostAddress : String := ""
  networkName : String := ""
  addresses : List Address := []
  secondaryNetworks : List String := []
  extra : KeyMap Json := .empty
  deriving Inhabited

namespace Resource

def isNode (r : Resource) : Bool := r.kind == .node

def same (r q : Resource) : Bool :=
  r.kind == q.kind && r.name == q.name && r.namespaceName == q.namespaceName &&
    r.labels == q.labels && r.annotations == q.annotations && r.ownerName == q.ownerName &&
    r.ownerKind == q.ownerKind && r.hostName == q.hostName && r.hostAddress == q.hostAddress &&
    r.networkName == q.networkName && r.addresses == q.addresses &&
    r.secondaryNetworks == q.secondaryNetworks &&
    Json.sameMembers r.extra.members q.extra.members

end Resource

end ClusterDirectory
