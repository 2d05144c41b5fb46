import ClusterDirectory.Resource

namespace ClusterDirectory

inductive Field
  | kind
  | name
  | namespaceName
  | labels
  | annotations
  | ownerName
  | ownerKind
  | hostName
  | hostAddress
  | networkName
  | addresses
  | secondaryNetworks
  deriving DecidableEq, Repr

namespace Field

def all : List Field := [
  .kind, .name, .namespaceName, .labels, .annotations, .ownerName, .ownerKind, .hostName,
  .hostAddress, .networkName, .addresses, .secondaryNetworks]

def key : Field → String
  | .kind => "kind"
  | .name => "name"
  | .namespaceName => "namespace"
  | .labels => "labels"
  | .annotations => "annotations"
  | .ownerName => "ownerName"
  | .ownerKind => "ownerKind"
  | .hostName => "hostName"
  | .hostAddress => "hostIp"
  | .networkName => "networkName"
  | .addresses => "ips"
  | .secondaryNetworks => "secondaryNetKeys"

def ofKey? (key : String) : Option Field := all.find? (·.key == key)

theorem mem_all (f : Field) : f ∈ all := by cases f <;> decide

theorem ofKey?_key (f : Field) : ofKey? f.key = some f := by cases f <;> decide

end Field

end ClusterDirectory
