import ClusterDirectory.Change.Decoder
import ClusterDirectory.Proofs.Resource.Written

namespace ClusterDirectory

theorem Operation.ofName?_name (op : Operation) : ofName? op.name = some op := by
  cases op <;> decide

namespace Change

open Json

/-- The name of the resource has a character that is not white space, and its extra fields fit: they
have keys of their own, and values that nest at most 125 brackets deep, with whole numbers of 64
bits. -/
structure WellFormed (c : Change) : Prop where
  named : Text.allBlank c.resource.name = false
  extra : c.resource.ExtraFits 125

theorem readsMembers_json {c : Change} (extra : c.resource.ExtraFits 125) :
    ReadsMembers Draft.fields {} [("operation", .text c.operation.name),
      ("resource", c.resource.json)] ⟨some c.operation, some c.resource.draft⟩ := by
  have operation : Reads Draft.operationReader (.text c.operation.name) c.operation :=
    .choice (by rw [Operation.ofName?_name])
  have resource : Reads Draft.resourceReader c.resource.json c.resource.draft :=
    Resource.reads_json extra
  exact .cons rfl (operation.map _) (.cons rfl (resource.map _) (.nil _))

theorem reads_json {c : Change} (extra : c.resource.ExtraFits 125) :
    Reads reader c.json ⟨c, c.resource.addresses.map Address.render⟩ := by
  refine .ofFirst (written_object _) (by decide) ?_
  intro s _
  rw [reader, run_ofFirst (by decide), if_neg (by decide), if_pos rfl, readObject,
    members_row (readsMembers_json extra) true s]
  rfl

theorem decode_of_wellFormed {c : Change} (wellFormed : c.WellFormed) :
    decode (Text.bytes c.render) = .ok c := by
  have bytes : Text.bytes c.render = written c.json ++ [] := by
    rw [Text.bytes, render, String.toList_ofList, List.append_nil, written]
  have run := (reads_json wellFormed.extra).run [] (fun b first => by cases first)
  rw [decode, read, bytes, Resource.readAll, run]
  simp only [skipSpace, List.dropWhile_nil, judge, wellFormed.named, Bool.false_eq_true, if_false]

end Change

end ClusterDirectory
