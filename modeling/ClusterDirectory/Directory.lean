import ClusterDirectory.Notice
import Std.Data.HashMap

/-!
The directory: the latest resource known under each address, and the latest node under each name.

A resource that is put in stands under every address that it lists, whatever stood there before. One
that is taken out leaves the addresses that it lists at that time, whatever stands there; addresses
that it had before and no longer lists stay. Only nodes have entries by name.
-/

namespace ClusterDirectory

structure Directory where
  byAddress : Std.HashMap Address Resource := ∅
  byNode : Std.HashMap String Resource := ∅

namespace Directory

def empty : Directory := {}

def address? (d : Directory) (a : Address) : Option Resource := d.byAddress[a]?

def node? (d : Directory) (name : String) : Option Resource := d.byNode[name]?

def counts (d : Directory) : Nat × Nat := (d.byAddress.size, d.byNode.size)

def upsert (d : Directory) (r : Resource) : Directory where
  byAddress := r.addresses.foldl (fun m a => m.insert a r) d.byAddress
  byNode := if r.isNode then d.byNode.insert r.name r else d.byNode

def eraseAddresses (m : Std.HashMap Address Resource) (as : List Address) :
    Std.HashMap Address Resource × Nat :=
  as.foldl (fun (m, n) a => (m.erase a, if m.contains a then n + 1 else n)) (m, 0)

def delete (d : Directory) (r : Resource) : Directory where
  byAddress := (eraseAddresses d.byAddress r.addresses).1
  byNode := if r.isNode then d.byNode.erase r.name else d.byNode

def deletedCount (d : Directory) (r : Resource) : Nat :=
  (eraseAddresses d.byAddress r.addresses).2

def apply (d : Directory) (c : Change) : Directory :=
  match c.operation with
  | .add | .update => d.upsert c.resource
  | .delete => d.delete c.resource

def upsertNotice (r : Resource) : Notice := .upserted r.kind r.name r.addresses.length

def deleteNotice (d : Directory) (r : Resource) : Notice :=
  .deleted r.kind r.name (d.deletedCount r) r.addresses.length

def notice (d : Directory) (c : Change) : Notice :=
  match c.operation with
  | .add | .update => upsertNotice c.resource
  | .delete => d.deleteNotice c.resource

end Directory

end ClusterDirectory
