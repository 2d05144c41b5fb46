import ClusterDirectory.Json.Printer
import ClusterDirectory.Resource.Field

namespace ClusterDirectory.Resource

def fieldJson (r : Resource) : Field → Json
  | .kind => .text r.kind.name
  | .name => .text r.name
  | .namespaceName => .text r.namespaceName
  | .labels => texts r.labels
  | .annotations => texts r.annotations
  | .ownerName => .text r.ownerName
  | .ownerKind => .text r.ownerKind
  | .hostName => .text r.hostName
  | .hostAddress => .text r.hostAddress
  | .networkName => .text r.networkName
  | .addresses => .list (r.addresses.map fun a => .text a.render)
  | .secondaryNetworks => .list (r.secondaryNetworks.map .text)
where
  texts (m : KeyMap String) : Json := .object (m.members.map fun (k, v) => (k, .text v))

def json (r : Resource) : Json :=
  .object (Field.all.map (fun f => (f.key, r.fieldJson f)) ++ r.extra.members)

def render (r : Resource) : String := String.ofList r.json.render

end ClusterDirectory.Resource
