import ClusterDirectory.Proofs.Change.RoundTrip
import ClusterDirectory.Proofs.Http.Request
import ClusterDirectory.Proofs.Updates.Stop

/-!
# Look-ups over requests

An address is found under all its spellings alike: the answer is the record that the last change to
list the address left, or names the address as it is written (`fetch_spellings`). A node is found
under its exact name, whatever characters the name has (`fetch_names`).
-/

namespace ClusterDirectory

namespace Http.Response

structure Tells (r : Response) (status : Nat) (reason : String) : Prop where
  status : r.status = status
  contentType : r.contentType = some "application/json"
  body : Resource.readAll (Json.Reader.value Resource.nestingLimit) (fun _ => [])
    (Text.bytes r.body) = .ok (.object [("error", .text reason)])

theorem error_tells (status : Nat) (reason : String) :
    (error status reason).Tells status reason where
  status := rfl
  contentType := rfl
  body := by
    let v : Json := .object [("error", .text reason)]
    have bytes : Text.bytes (error status reason).body = Json.written v ++ [] := by
      rw [List.append_nil, Json.written, Text.bytes, error, json, String.toList_ofList]
    have ordered : v.Ordered := ⟨List.pairwise_singleton _ _, trivial, trivial⟩
    have reads : Json.Reads (.value Resource.nestingLimit) v v :=
      .value (show 1 ≤ Resource.nestingLimit by decide) ordered ⟨trivial, trivial⟩
    rw [bytes, Resource.readAll, reads.run [] (fun b first => by cases first)]
    rfl

end Http.Response

theorem Resource.mem_members_json (r : Resource) (f : Field) :
    ∃ members, r.json = .object members ∧ (f.key, r.fieldJson f) ∈ members :=
  ⟨_, rfl, List.mem_append_left _ (List.mem_map_of_mem (Field.mem_all f))⟩

namespace Http

open Route

def Response.Lists (r : Response) (text : String) : Prop :=
  ∃ members texts, r.body = String.ofList (Json.object members).render ∧
    (Field.addresses.key, .list texts) ∈ members ∧ .text text ∈ texts

theorem Response.json_lists {r : Resource} {a : Address} (listed : a ∈ r.addresses) (status : Nat) :
    (json status r.json).Lists a.render := by
  obtain ⟨members, object, member⟩ := r.mem_members_json .addresses
  refine ⟨members, _, ?_, member, List.mem_map_of_mem listed⟩
  rw [json, object]

namespace Site

variable {s : Site} {word : String} {a : Address}

theorem lookupAddress_spelled (spelled : Address.Spelling word.toList a) :
    (s.lookupAddress word).1 = found s!"IP {a.render}" (s.source.address? a) := by
  rw [lookupAddress, Address.parse?_eq_some.2 spelled]

theorem lookupAddress_unspelled (unspelled : ∀ a, ¬Address.Spelling word.toList a) :
    (s.lookupAddress word).1.Tells 400 s!"invalid IP address '{word}'" := by
  have none : Address.parse? word = none :=
    Option.eq_none_iff_forall_ne_some.2 fun a parsed =>
      unspelled a (Address.parse?_eq_some.1 parsed)
  rw [lookupAddress, none]
  exact Response.error_tells 400 _

theorem ne_empty_of_spelled (spelled : Address.Spelling word.toList a) : word ≠ "" := by
  rintro rfl
  have parsed := Address.parse?_eq_some.2 spelled
  cases parsed

theorem fetch_spelled (segment : Segment word) (spelled : Address.Spelling word.toList a)
    (fits : segment.Fits addressStart) :
    s.fetch (segment.behind addressStart) =
      .ok (found s!"IP {a.render}" (s.source.address? a)) := by
  rw [s.fetch_address segment (ne_empty_of_spelled spelled) fits, lookupAddress_spelled spelled]

/-- A request for an address is answered from the last change that lists it, in whichever spelling
and encoding it is asked for; the addresses that changes list are read from the same spellings. -/
theorem fetch_spellings (history : List Change) (metrics : Metrics) :
    let site : Site := ⟨.stream (Directory.after history), metrics⟩
    (∀ {word : String} (segment : Segment word), word ≠ "" → segment.Fits addressStart →
      ∃ response, site.fetch (segment.behind addressStart) = .ok response ∧
        ((∀ a, ¬Address.Spelling word.toList a) →
          response.Tells 400 s!"invalid IP address '{word}'") ∧
        ∀ a, Address.Spelling word.toList a →
          match Change.lastStanding? (·.lists a) history with
          | some r => response = .json 200 r.json ∧ response.Lists a.render
          | none => response.Tells 404 s!"no resource found for IP {a.render}") ∧
    (∀ {word other : String} (segment : Segment word) (another : Segment other) (a : Address),
      Address.Spelling word.toList a → Address.Spelling other.toList a →
      segment.Fits addressStart → another.Fits addressStart →
      site.fetch (segment.behind addressStart) = site.fetch (another.behind addressStart)) ∧
    ∀ (d : Resource.Draft) (texts : List String) (a : Address),
      a ∈ (d.withAddresses texts).resource.addresses ↔
        ∃ text ∈ texts, Address.Spelling text.toList a := by
  intro site
  refine ⟨?_, ?_, ?_⟩
  · intro word segment nonempty fits
    refine ⟨_, site.fetch_address segment nonempty fits, lookupAddress_unspelled, ?_⟩
    intro a spelled
    have source : site.source.address? a = Change.lastStanding? (·.lists a) history :=
      Directory.address?_after history a
    rw [lookupAddress_spelled spelled, source]
    cases standing : Change.lastStanding? (·.lists a) history with
    | none => exact Response.error_tells 404 _
    | some r =>
        rw [← Directory.address?_after] at standing
        exact ⟨rfl, Response.json_lists (Directory.lists_of_address?_after standing) 200⟩
  · intro word other segment another a spelled alike fits fits'
    rw [fetch_spelled segment spelled fits, fetch_spelled another alike fits']
  · intro d texts a
    simp only [Resource.Draft.withAddresses, List.mem_filterMap, Address.parse?_eq_some]

def mappedPod : Resource where
  kind := .pod
  name := "web"
  addresses := [.v6 0 0 0 0 0 0xFFFF 0x0A00 0x0001]

theorem fetch_mapped_spellings :
    let site : Site := ⟨.stream (Directory.after [⟨.add, mappedPod⟩]), {}⟩
    site.fetch "/resources/ip/::FFFF:10.0.0.1" = .ok (.json 200 mappedPod.json) ∧
      site.fetch "/resources/ip/0%3a0%3a0%3a0%3a0%3affff%3a0a00%3a1" =
        .ok (.json 200 mappedPod.json) ∧
      ∃ response, site.fetch "/resources/ip/::FFFF:10.0.0.256" = .ok response ∧
        response.Tells 400 "invalid IP address '::FFFF:10.0.0.256'" := by
  intro site
  obtain ⟨each, alike, -⟩ := fetch_spellings [⟨.add, mappedPod⟩] {}
  have spelled : Address.Spelling "::FFFF:10.0.0.1".toList (.v6 0 0 0 0 0 0xFFFF 0x0A00 1) :=
    Address.parse?_eq_some.1 (by decide)
  have alsoSpelled : Address.Spelling "0:0:0:0:0:ffff:0a00:1".toList
      (.v6 0 0 0 0 0 0xFFFF 0x0A00 1) :=
    Address.parse?_eq_some.1 (by decide)
  have unspelled (a : Address) : ¬Address.Spelling "::FFFF:10.0.0.256".toList a := by
    rw [← Address.parse?_eq_some, show Address.parse? "::FFFF:10.0.0.256" = none by decide]
    exact Option.some_ne_none a ∘ Eq.symm
  let dotted := Segment.plain "::FFFF:10.0.0.1" (by decide) (by decide)
  let whole := Segment.encoded "0:0:0:0:0:ffff:0a00:1"
  let wrong := Segment.plain "::FFFF:10.0.0.256" (by decide) (by decide)
  have atDotted : dotted.behind addressStart = "/resources/ip/::FFFF:10.0.0.1" := by decide
  have atWhole : whole.behind addressStart =
      "/resources/ip/0%3a0%3a0%3a0%3a0%3affff%3a0a00%3a1" := by
    decide
  have atWrong : wrong.behind addressStart = "/resources/ip/::FFFF:10.0.0.256" := by decide
  have first : site.fetch "/resources/ip/::FFFF:10.0.0.1" = .ok (.json 200 mappedPod.json) := by
    obtain ⟨response, fetched, -, found⟩ := each dotted (by decide) (by decide)
    have answered : response = .json 200 mappedPod.json := (found _ spelled).1
    rw [← answered, ← atDotted]
    exact fetched
  refine ⟨first, ?_, ?_⟩
  · rw [← first, ← atDotted, ← atWhole]
    exact alike whole dotted _ alsoSpelled spelled (by decide) (by decide)
  · obtain ⟨response, fetched, refused, -⟩ := each wrong (by decide) (by decide)
    rw [← atWrong]
    exact ⟨response, fetched, refused unspelled⟩

theorem lookupNode_stream {d : Directory} (stream : s.source = .stream d) :
    (s.lookupNode word).1 = found s!"node '{word}'" (d.node? word) := by
  rw [lookupNode, stream]
  rfl

/-- A request for a node is answered from the last change of a node of exactly that name. -/
theorem fetch_names (stopped : Bool) (events : List Updates.Event) :
    let u := ((Updates.start stopped).1.watch events).1
    let site : Site := ⟨.stream u.directory, u.metrics⟩
    let changes := if stopped then [] else (Updates.heard events).filterMap (Updates.change? ·.2)
    (∀ {word : String} (segment : Segment word), word ≠ "" → segment.Fits nodeStart →
      ∃ response, site.fetch (segment.behind nodeStart) = .ok response ∧
        match u.directory.node? word with
        | some r => response = .json 200 r.json ∧ r.kind = .node ∧ r.name = word
        | none => response.Tells 404 s!"no resource found for node '{word}'") ∧
    (∀ word, u.directory.node? word = Change.lastStanding? (·.names word) changes) ∧
    (∀ word, ∃ segment : Segment word,
      segment.chars = Text.Percent.encode (Text.bytes word)) ∧
    ∀ {word other : String} (segment : Segment word) (another : Segment other),
      segment.chars = another.chars → word = other := by
  intro u site changes
  have directory : u.directory = Directory.after changes := Updates.watch_directory stopped events
  have stream : site.source = .stream u.directory := rfl
  refine ⟨?_, ?_, fun word => ⟨.encoded word, rfl⟩, Segment.word_eq⟩
  · intro word segment nonempty fits
    refine ⟨_, site.fetch_node segment nonempty fits, ?_⟩
    rw [lookupNode_stream stream]
    cases standing : u.directory.node? word with
    | none => exact Response.error_tells 404 _
    | some r =>
        rw [directory] at standing
        exact ⟨rfl, Directory.names_of_node?_after standing⟩
  · intro word
    rw [directory, Directory.node?_after]

def oddNode : Resource where
  kind := .node
  name := " a/%2F\x22é"

theorem fetch_odd_name :
    let added := Text.bytes (Change.render ⟨.add, oddNode⟩)
    let u := ((Updates.start false).1.watch [⟨0, .reads [.ok added]⟩]).1
    let site : Site := ⟨.stream u.directory, u.metrics⟩
    site.fetch "/resources/node/%20a%2f%252F%22%c3%a9" = .ok (.json 200 oddNode.json) ∧
      ∃ response, site.fetch "/resources/node/a%2f%252F%22%c3%a9" = .ok response ∧
        response.Tells 404 "no resource found for node 'a/%2F\x22é'" := by
  have wellFormed : Change.WellFormed ⟨.add, oddNode⟩ := ⟨by decide, nofun, nofun, nofun, nofun⟩
  have decoded := Change.decode_of_wellFormed wellFormed
  obtain ⟨payload, text⟩ : ∃ payload, payload = Text.bytes (Change.render ⟨.add, oddNode⟩) :=
    ⟨_, rfl⟩
  rw [← text] at decoded ⊢
  intro added u site
  obtain ⟨each, indexed, -⟩ := fetch_names false [⟨0, .reads [.ok payload]⟩]
  have heard : Updates.heard [⟨0, .reads [.ok payload]⟩] = [(0, .ok payload)] := rfl
  simp only [heard, Bool.false_eq_true, if_false, List.filterMap_cons, List.filterMap_nil,
    Updates.change?_of_decode decoded] at indexed
  let kept := Segment.encoded " a/%2F\x22é"
  let trimmed := Segment.encoded "a/%2F\x22é"
  have atKept : kept.behind nodeStart = "/resources/node/%20a%2f%252F%22%c3%a9" := by decide
  have atTrimmed : trimmed.behind nodeStart = "/resources/node/a%2f%252F%22%c3%a9" := by decide
  refine ⟨?_, ?_⟩
  · obtain ⟨response, fetched, found⟩ := each kept (by decide) (by decide)
    rw [indexed] at found
    have answered : response = .json 200 oddNode.json := found.1
    rw [← answered, ← atKept]
    exact fetched
  · obtain ⟨response, fetched, found⟩ := each trimmed (by decide) (by decide)
    rw [indexed] at found
    rw [← atTrimmed]
    exact ⟨response, fetched, found⟩

end Site

end Http

end ClusterDirectory
