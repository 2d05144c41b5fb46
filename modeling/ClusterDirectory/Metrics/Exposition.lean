import ClusterDirectory.Metrics

namespace ClusterDirectory.Metrics

structure Sample where
  suffix : String := ""
  label : Option (String × String) := none
  value : String

structure Family where
  name : String
  help : String
  type : String
  samples : List Sample

def Sample.line (family : String) (s : Sample) : String :=
  let label := match s.label with
    | some (key, value) => "\x7b" ++ key ++ "=\x22" ++ value ++ "\x22\x7d"
    | none => ""
  s!"{family}{s.suffix}{label} {s.value}\n"

def Family.text (f : Family) : String :=
  if f.samples.isEmpty then ""
  else s!"# HELP {f.name} {f.help}.\n# TYPE {f.name} {f.type}\n" ++
    String.join (f.samples.map (Sample.line f.name))

def counted (key name : String) (n : UInt64) : Sample where
  suffix := "_total"
  label := some (key, name)
  value := toString n.toNat

def gauge (name help : String) (value : Int64) : Family :=
  { name, help, type := "gauge", samples := [{ value := toString value.toInt }] }

def outcomeOrder : List Outcome := [.applied, .decodeError, .empty, .transportError]

def operationOrder : List Operation := [.add, .delete, .update]

def messageFamily (m : Metrics) : Family where
  name := "metacache_messages"
  help := "Stream messages by handling outcome"
  type := "counter"
  samples := outcomeOrder.map fun o => counted "outcome" o.name (m.messages o)

def changeFamily (m : Metrics) : Family where
  name := "metacache_events"
  help := "Change events applied to the cache by operation"
  type := "counter"
  samples := operationOrder.filterMap fun op =>
    (m.changes? op).map (counted "operation" op.name)

def families (m : Metrics) : List Family := [
  messageFamily m,
  changeFamily m,
  gauge "metacache_ip_entries" "Number of IP addresses in the cache" m.addressEntries,
  gauge "metacache_node_entries" "Number of node names in the cache" m.nodeEntries,
  gauge "metacache_last_event_timestamp_seconds"
    "Unix timestamp of the last applied change event" m.lastChange]

def render (m : Metrics) : String := String.join (m.families.map Family.text) ++ "# EOF\n"

end ClusterDirectory.Metrics
