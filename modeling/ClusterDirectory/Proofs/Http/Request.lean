import ClusterDirectory.Http.Router
import ClusterDirectory.Proofs.Text.Percent

namespace ClusterDirectory.Http

namespace Target

theorem isPathChar_of_ne {c : Char} (visible : 0x21 ≤ c.toNat) (hash : c ≠ '#')
    (less : c ≠ '<') (greater : c ≠ '>') (question : c ≠ '?') (tick : c ≠ '`') :
    isPathChar c = true := by
  simp [isPathChar, visible, hash, less, greater, question, tick]

theorem endsPath_of_isPathChar {c : Char} (allowed : isPathChar c = true) : endsPath c = false := by
  cases ends : endsPath c with
  | false => rfl
  | true =>
      simp only [endsPath, Bool.or_eq_true, beq_iff_eq] at ends
      rcases ends with rfl | rfl <;> exact absurd allowed (by decide)

theorem readPath_ok {path : List Char} (allowed : ∀ c ∈ path, isPathChar c = true) :
    readPath path = .ok path := by
  have inside : ∀ c ∈ path, (!endsPath c) = true := fun c member => by
    rw [endsPath_of_isPathChar (allowed c member), Bool.not_false]
  have whole : (path ++ []).takeWhile (!endsPath ·) = path := by
    rw [List.takeWhile_append_of_pos inside, List.takeWhile_nil, List.append_nil]
  have nothing : (path ++ []).dropWhile (!endsPath ·) = [] := by
    rw [List.dropWhile_append_of_pos inside, List.dropWhile_nil]
  rw [List.append_nil] at whole nothing
  simp only [readPath, whole, nothing, List.all_nil, Bool.and_true]
  rw [if_pos (List.all_eq_true.2 allowed)]

theorem parse_path {text : String} {path : List Char} (rooted : text.toList = '/' :: path)
    (allowed : ∀ c ∈ text.toList, isPathChar c = true)
    (fits : (Text.bytes text).length ≤ lengthLimit) : parse text = .ok ⟨text.toList⟩ := by
  have read := readPath_ok allowed
  have short : ¬lengthLimit < (Text.bytes text).length := Nat.not_lt.2 fits
  rw [rooted] at read ⊢
  simp only [parse, rooted, if_neg short, read]
  rfl

end Target

/-- A percent encoding of a word that can stand as one segment of a path. -/
structure Segment (word : String) where
  chars : List Char
  encodes : Text.Percent.Spelling chars (Text.bytes word)
  single : '/' ∉ chars
  allowed : ∀ c ∈ chars, Target.isPathChar c = true

namespace Segment

variable {word : String}

def behind (segment : Segment word) (start : String) : String :=
  start ++ String.ofList segment.chars

def Fits (segment : Segment word) (start : String) : Prop :=
  (Text.bytes (segment.behind start)).length ≤ Target.lengthLimit

instance (segment : Segment word) (start : String) : Decidable (segment.Fits start) :=
  inferInstanceAs (Decidable (_ ≤ _))

theorem decode_chars (segment : Segment word) :
    Text.ofBytes? (Text.Percent.decode segment.chars) = some word :=
  Text.ofBytes?_eq_some.2 (Text.Percent.decode_spelling segment.encodes).symm

theorem word_eq {other : String} (segment : Segment word) (another : Segment other)
    (same : segment.chars = another.chars) : word = other := by
  have first := segment.decode_chars
  rw [same, another.decode_chars] at first
  exact (Option.some.inj first).symm

theorem chars_ne_nil (segment : Segment word) (nonempty : word ≠ "") : segment.chars ≠ [] := by
  intro nothing
  exact nonempty (segment.word_eq ⟨[], .nil, nofun, nofun⟩ nothing)

def plain (word : String) (single : '/' ∉ word.toList)
    (allowed : (word.toList.all fun c => c != '%' && Target.isPathChar c) = true) :
    Segment word where
  chars := word.toList
  encodes := Text.Percent.spelling_self fun c member => by
    have known := List.all_eq_true.1 allowed c member
    rw [Bool.and_eq_true, bne_iff_ne] at known
    exact known.1
  single := single
  allowed c member := by
    have known := List.all_eq_true.1 allowed c member
    rw [Bool.and_eq_true] at known
    exact known.2

theorem encodedByte_allowed (b : UInt8) {c : Char} (member : c ∈ Text.Percent.encodeByte b) :
    c ≠ '/' ∧ Target.isPathChar c = true := by
  have digit : ∀ d < 16, Nat.digitChar d ≠ '/' ∧ Target.isPathChar (Nat.digitChar d) = true := by
    decide
  have bound := b.toNat_lt
  unfold Text.Percent.encodeByte at member
  split at member
  · rename_i unreserved
    obtain ⟨⟨above, below⟩, others⟩ := Text.Percent.toNat_of_isUnreserved unreserved
    rw [List.mem_singleton] at member
    have value : c.toNat = b.toNat := by
      rw [member, Text.Utf8.toNat_ofNat (.inl (by omega))]
    have other {d : Char} (apart : b.toNat ≠ d.toNat) : c ≠ d := by
      rintro rfl
      exact apart value.symm
    obtain ⟨slash, less, greater, question, tick⟩ := others
    exact ⟨other slash, Target.isPathChar_of_ne (by omega) (other (by simp; omega)) (other less)
      (other greater) (other question) (other tick)⟩
  · rw [List.mem_cons, List.mem_cons, List.mem_singleton] at member
    rcases member with rfl | rfl | rfl
    · decide
    · exact digit _ (by omega)
    · exact digit _ (by omega)

def encoded (word : String) : Segment word where
  chars := Text.Percent.encode (Text.bytes word)
  encodes := Text.Percent.spelling_encode _
  single member := by
    obtain ⟨b, -, member⟩ := List.mem_flatMap.1 member
    exact (encodedByte_allowed b member).1 rfl
  allowed c member := by
    obtain ⟨b, -, member⟩ := List.mem_flatMap.1 member
    exact (encodedByte_allowed b member).2

end Segment

theorem segmentAfter?_append (start : String) {segment : List Char} (nonempty : segment ≠ [])
    (single : '/' ∉ segment) : segmentAfter? start (start.toList ++ segment) = some segment := by
  have taken : (start.toList ++ segment).take start.toList.length = start.toList :=
    List.take_left
  have dropped : (start.toList ++ segment).drop start.toList.length = segment := List.drop_left
  simp only [segmentAfter?, taken, dropped]
  rw [if_pos ⟨trivial, nonempty, single⟩]

namespace Route

def addressStart : String := "/resources/ip/"

def nodeStart : String := "/resources/node/"

theorem ofPath?_address {segment : List Char} (nonempty : segment ≠ []) (single : '/' ∉ segment) :
    ofPath? (addressStart.toList ++ segment) = some (.address segment) := by
  have health : addressStart.toList ++ segment ≠ "/health".toList := by simp [addressStart]
  have metrics : addressStart.toList ++ segment ≠ "/metrics".toList := by simp [addressStart]
  rw [ofPath?, if_neg health, if_neg metrics, ← addressStart,
    segmentAfter?_append _ nonempty single]
  rfl

theorem ofPath?_node {segment : List Char} (nonempty : segment ≠ []) (single : '/' ∉ segment) :
    ofPath? (nodeStart.toList ++ segment) = some (.node segment) := by
  have health : nodeStart.toList ++ segment ≠ "/health".toList := by simp [nodeStart]
  have metrics : nodeStart.toList ++ segment ≠ "/metrics".toList := by simp [nodeStart]
  have address : segmentAfter? "/resources/ip/" (nodeStart.toList ++ segment) = none := by
    simp [segmentAfter?, nodeStart]
  rw [ofPath?, if_neg health, if_neg metrics, address, ← nodeStart,
    segmentAfter?_append _ nonempty single]
  rfl

end Route

namespace Site

variable {word : String}

def fetch (s : Site) (uri : String) : Except Target.Defect Response :=
  (Target.parse uri).map fun target => (s.respond ⟨.get, target⟩).1

theorem fetch_behind (s : Site) (segment : Segment word) {start : String} {rest : List Char}
    (rooted : start.toList = '/' :: rest) (allowed : ∀ c ∈ start.toList, Target.isPathChar c = true)
    (fits : segment.Fits start) {route : Route}
    (found : Route.ofPath? (start.toList ++ segment.chars) = some route) :
    s.fetch (segment.behind start) = .ok (s.get route).1 := by
  have chars : (segment.behind start).toList = start.toList ++ segment.chars := by
    rw [Segment.behind, String.toList_append, String.toList_ofList]
  have parsed : Target.parse (segment.behind start) = .ok ⟨start.toList ++ segment.chars⟩ := by
    rw [← chars]
    have slash : (segment.behind start).toList = '/' :: (rest ++ segment.chars) := by
      rw [chars, rooted, List.cons_append]
    refine Target.parse_path slash ?_ fits
    rw [chars]
    exact List.forall_mem_append.2 ⟨allowed, segment.allowed⟩
  rw [fetch, parsed, Except.map, respond, found]

theorem withParameter_chars (name : String) (segment : Segment word)
    (lookup : String → Response × List Notice) :
    withParameter name segment.chars lookup = lookup word := by
  rw [withParameter, segment.decode_chars]

theorem fetch_address (s : Site) (segment : Segment word) (nonempty : word ≠ "")
    (fits : segment.Fits Route.addressStart) :
    s.fetch (segment.behind Route.addressStart) = .ok (s.lookupAddress word).1 := by
  have found := Route.ofPath?_address (segment.chars_ne_nil nonempty) segment.single
  have allowed : (Route.addressStart.toList.all Target.isPathChar) = true := by decide
  rw [s.fetch_behind segment rfl (List.all_eq_true.1 allowed) fits found, get, withParameter_chars]

theorem fetch_node (s : Site) (segment : Segment word) (nonempty : word ≠ "")
    (fits : segment.Fits Route.nodeStart) :
    s.fetch (segment.behind Route.nodeStart) = .ok (s.lookupNode word).1 := by
  have found := Route.ofPath?_node (segment.chars_ne_nil nonempty) segment.single
  have allowed : (Route.nodeStart.toList.all Target.isPathChar) = true := by decide
  rw [s.fetch_behind segment rfl (List.all_eq_true.1 allowed) fits found, get, withParameter_chars]

end Site

end ClusterDirectory.Http
