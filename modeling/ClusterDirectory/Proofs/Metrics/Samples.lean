import ClusterDirectory.Metrics.Exposition
import ClusterDirectory.Proofs.Address.Spelling
import Mathlib.Data.List.Nodup

/-!
# The samples in the text of the metrics

`samples` reads a text as a scraper does: it passes over the lines of help and the other comments,
and takes from every other line the series in front of its last blank and the value behind it. What
it reads in the text of some metrics is the list of their counts and gauges (`samples_render`), so
that every series comes at most once and no other comes at all.
-/

namespace ClusterDirectory.Metrics

def IsSample (line : String) : Prop := line ≠ "" ∧ line.toList.head? ≠ some '#'

instance (line : String) : Decidable (IsSample line) :=
  inferInstanceAs (Decidable (line ≠ "" ∧ line.toList.head? ≠ some '#'))

def sample? (line : String) : Option (String × String) :=
  if IsSample line then
    let behind := line.toList.reverse.takeWhile (· ≠ ' ')
    let before := (line.toList.reverse.dropWhile (· ≠ ' ')).drop 1
    some (String.ofList before.reverse, String.ofList behind.reverse)
  else none

def samples (text : String) : List (String × String) :=
  ((text.toList.splitOn '\n').map String.ofList).filterMap sample?

def valuesOf (text series : String) : List String :=
  ((samples text).filter (·.1 = series)).map Prod.snd

def OneLine (s : String) : Prop := '\n' ∉ s.toList

instance (s : String) : Decidable (OneLine s) := inferInstanceAs (Decidable ('\n' ∉ s.toList))

@[simp] theorem oneLine_append (s t : String) : OneLine (s ++ t) ↔ OneLine s ∧ OneLine t := by
  simp [OneLine]

theorem splitOn_lines {lines : List (List Char)} (whole : ∀ l ∈ lines, '\n' ∉ l) :
    (lines.flatMap (· ++ ['\n'])).splitOn '\n' = lines ++ [[]] := by
  simp only [List.splitOn_eq_splitOnP]
  induction lines with
  | nil => rfl
  | cons l lines ih =>
      have first : ∀ c ∈ l, (c == '\n') = false := by
        intro c member
        exact beq_false_of_ne fun same => whole l List.mem_cons_self (same ▸ member)
      have rest := ih fun l' member => whole l' (List.mem_cons_of_mem l member)
      rw [List.flatMap_cons, List.append_assoc, List.singleton_append,
        List.splitOnP_append_cons (p := (· == '\n')) _ _ rfl, List.splitOnP_eq_singleton first,
        rest]
      rfl

theorem samples_join {lines : List String} (whole : ∀ l ∈ lines, OneLine l) :
    samples (String.join (lines.map (· ++ "\n"))) = lines.filterMap sample? := by
  have spelled : (String.join (lines.map (· ++ "\n"))).toList =
      (lines.map String.toList).flatMap (· ++ ['\n']) := by
    simp [String.toList_join, List.flatMap_map]
  have each : ∀ l ∈ lines.map String.toList, '\n' ∉ l := List.forall_mem_map.2 whole
  have last : sample? "" = none := by decide
  rw [samples, spelled, splitOn_lines each, List.map_append, List.map_map, List.filterMap_append]
  simp [Function.comp_def, last]

theorem IsSample.append {s : String} (h : IsSample s) (t : String) : IsSample (s ++ t) := by
  obtain ⟨nonempty, other⟩ := h
  cases spelled : s.toList with
  | nil => exact absurd (String.toList_eq_nil_iff.1 spelled) nonempty
  | cons c r =>
      rw [spelled, List.head?_cons] at other
      refine ⟨?_, ?_⟩
      · simp [← String.toList_inj, spelled]
      · simpa [spelled] using other

theorem sample?_comment {line : String} (first : line.toList.head? = some '#') :
    sample? line = none :=
  if_neg fun h => h.2 first

theorem sample?_line {series value : String} (h : IsSample series) (blank : ' ' ∉ value.toList) :
    sample? (series ++ " " ++ value) = some (series, value) := by
  have line : (series ++ " " ++ value).toList.reverse =
      value.toList.reverse ++ ' ' :: series.toList.reverse := by simp
  have inside : ∀ d ∈ value.toList.reverse, (d ≠ ' ' : Bool) = true := by
    intro d member
    exact decide_eq_true fun same => blank (same ▸ List.mem_reverse.1 member)
  obtain ⟨behind, before⟩ := Address.takeWhile_row inside
    (Address.stopsAt_cons (show (' ' ≠ ' ' : Bool) = false from rfl) series.toList.reverse)
  rw [sample?, if_pos ((h.append " ").append value), line, behind, before]
  simp

def Sample.series (family : String) (s : Sample) : String :=
  family ++ s.suffix ++
    match s.label with
    | some (key, value) => "\x7b" ++ key ++ "=\x22" ++ value ++ "\x22\x7d"
    | none => ""

def Family.lines (f : Family) : List String :=
  if f.samples.isEmpty then []
  else ("# HELP " ++ f.name ++ " " ++ f.help ++ ".") :: ("# TYPE " ++ f.name ++ " " ++ f.type) ::
    f.samples.map fun s => s.series f.name ++ " " ++ s.value

theorem Family.text_eq (f : Family) : f.text = String.join (f.lines.map (· ++ "\n")) := by
  rw [Family.text, Family.lines]
  split
  · rfl
  · have each : f.samples.map (Sample.line f.name) =
        (f.samples.map fun s => s.series f.name ++ " " ++ s.value).map (· ++ "\n") := by
      rw [List.map_map]
      rfl
    have breaks : ".\n# TYPE " = "." ++ "\n" ++ "# TYPE " := by decide
    rw [each, List.map_cons, List.map_cons, String.join_cons, String.join_cons, breaks]
    simp only [String.append_assoc, ToString.toString]

theorem render_eq (m : Metrics) :
    m.render = String.join ((m.families.flatMap Family.lines ++ ["# EOF"]).map (· ++ "\n")) := by
  -- stated for every list of families, since the list that metrics have is fixed
  have each (fs : List Family) : String.join (fs.map Family.text) =
      String.join ((fs.flatMap Family.lines).map (· ++ "\n")) := by
    induction fs with
    | nil => rfl
    | cons f fs ih => simp [ih, Family.text_eq, String.join_append]
  rw [render, each, List.map_append, String.join_append]
  rfl

structure Sample.Legible (s : Sample) : Prop where
  suffix : OneLine s.suffix
  label : ∀ l ∈ s.label, OneLine l.1 ∧ OneLine l.2
  value : OneLine s.value
  blank : ' ' ∉ s.value.toList

structure Family.Legible (f : Family) : Prop where
  start : IsSample f.name
  name : OneLine f.name
  help : OneLine f.help
  type : OneLine f.type
  samples : ∀ s ∈ f.samples, s.Legible

theorem Sample.Legible.series {s : Sample} (h : s.Legible) {family : String}
    (name : OneLine family) : OneLine (s.series family) := by
  have signs : OneLine "" ∧ OneLine "\x7b" ∧ OneLine "=\x22" ∧ OneLine "\x22\x7d" := by decide
  rw [Sample.series]
  split
  · rename_i key value found
    simp [name, h.suffix, signs, h.label (key, value) found]
  · simp [name, h.suffix]

namespace Family.Legible

variable {f : Family}

theorem oneLine (h : f.Legible) : ∀ l ∈ f.lines, OneLine l := by
  have signs : OneLine "# HELP " ∧ OneLine "# TYPE " ∧ OneLine " " ∧ OneLine "." := by decide
  intro l member
  rw [Family.lines] at member
  split at member
  · cases member
  · rcases List.mem_cons.1 member with rfl | member
    · simp [signs, h.name, h.help]
    · rcases List.mem_cons.1 member with rfl | member
      · simp [signs, h.name, h.type]
      · obtain ⟨s, among, rfl⟩ := List.mem_map.1 member
        simp [signs, (h.samples s among).series h.name, (h.samples s among).value]

theorem samples_lines (h : f.Legible) :
    f.lines.filterMap sample? = f.samples.map fun s => (s.series f.name, s.value) := by
  have line : ∀ s ∈ f.samples, sample? (s.series f.name ++ " " ++ s.value) =
      some (s.series f.name, s.value) := by
    intro s member
    exact sample?_line ((h.start.append s.suffix).append _) (h.samples s member).blank
  rw [Family.lines]
  split
  · rename_i none
    rw [List.isEmpty_iff.1 none]
    rfl
  · rw [List.filterMap_cons_none (sample?_comment (by simp)),
      List.filterMap_cons_none (sample?_comment (by simp)), List.filterMap_map]
    exact List.filterMap_eq_map_iff_forall_eq_some.2 line

end Family.Legible

theorem samples_render_of_legible {m : Metrics} (legible : ∀ f ∈ m.families, f.Legible) :
    samples m.render =
      m.families.flatMap fun f => f.samples.map fun s => (s.series f.name, s.value) := by
  have ending : OneLine "# EOF" := by decide
  have whole : ∀ l ∈ m.families.flatMap Family.lines ++ ["# EOF"], OneLine l := by
    intro l member
    rcases List.mem_append.1 member with inside | last
    · obtain ⟨f, among, listed⟩ := List.mem_flatMap.1 inside
      exact (legible f among).oneLine l listed
    · rw [List.mem_singleton.1 last]
      exact ending
  rw [render_eq, samples_join whole, List.filterMap_append,
    List.filterMap_cons_none (sample?_comment (by simp)), List.filterMap_nil, List.append_nil,
    List.filterMap_flatMap]
  exact List.flatMap_congr fun f among => (legible f among).samples_lines

theorem sign_or_digit (i : Int) : ∀ c ∈ (toString i).toList, c = '-' ∨ Text.isDigit c = true := by
  have digits (n : Nat) : ∀ c ∈ (toString n).toList, Text.isDigit c = true := by
    intro c member
    exact Text.isDigit_of_mem_toDigits (Nat.toList_repr ▸ member)
  intro c member
  cases i with
  | ofNat n => exact .inr (digits n c member)
  | negSucc n =>
      have written : (toString (Int.negSucc n)).toList = '-' :: (toString (n + 1)).toList := by
        simp [toString, Int.repr]
      rw [written] at member
      exact (List.mem_cons.1 member).imp id (digits (n + 1) c)

theorem legible_of_number {s : Sample} {i : Int} (value : s.value = toString i)
    (suffix : OneLine s.suffix) (label : ∀ l ∈ s.label, OneLine l.1 ∧ OneLine l.2) :
    s.Legible := by
  have outside {c : Char} (sign : c ≠ '-') (digit : Text.isDigit c = false) :
      c ∉ s.value.toList := by
    intro member
    rw [value] at member
    rcases sign_or_digit i c member with same | same
    · exact sign same
    · simp [digit] at same
  exact ⟨suffix, label, outside (by decide) (by decide), outside (by decide) (by decide)⟩

theorem legible_counted {key name : String} (keyLine : OneLine key) (nameLine : OneLine name)
    (n : UInt64) : (counted key name n).Legible := by
  refine legible_of_number (i := n.toNat) rfl (show OneLine "_total" by decide) ?_
  rintro l found
  cases found
  exact ⟨keyLine, nameLine⟩

theorem legible_gauge (name help : String) (value : Int64) :
    ∀ s ∈ (gauge name help value).samples, s.Legible := by
  intro s member
  rw [List.mem_singleton.1 member]
  exact legible_of_number (i := value.toInt) rfl (show OneLine "" by decide) nofun

theorem oneLine_headers (m : Metrics) : ∀ f ∈ m.families,
    IsSample f.name ∧ OneLine f.name ∧ OneLine f.help ∧ OneLine f.type := by
  -- the headers do not depend on the numbers, so those of empty metrics can be computed instead
  have same : m.families.map (fun f => (f.name, f.help, f.type)) =
      (families {}).map fun f => (f.name, f.help, f.type) := rfl
  have each : ∀ h ∈ (families {}).map fun f => (f.name, f.help, f.type),
      IsSample h.1 ∧ OneLine h.1 ∧ OneLine h.2.1 ∧ OneLine h.2.2 := by decide
  intro f member
  exact each _ (same ▸ List.mem_map_of_mem member)

theorem legible_families (m : Metrics) : ∀ f ∈ m.families, f.Legible := by
  have outcomes (o : Outcome) : OneLine o.name := by cases o <;> decide
  have operations (op : Operation) : OneLine op.name := by cases op <;> decide
  intro f member
  obtain ⟨start, name, help, type⟩ := oneLine_headers m f member
  refine ⟨start, name, help, type, ?_⟩
  simp only [families, List.mem_cons, List.not_mem_nil, or_false] at member
  rcases member with rfl | rfl | rfl | rfl | rfl
  · exact List.forall_mem_map.2 fun o _ => legible_counted (by decide) (outcomes o) _
  · intro s among
    obtain ⟨op, -, made⟩ := List.mem_filterMap.1 among
    obtain ⟨n, -, rfl⟩ := Option.map_eq_some_iff.1 made
    exact legible_counted (by decide) (operations op) n
  all_goals exact legible_gauge _ _ _

def messageSeries (o : Outcome) : String :=
  "metacache_messages_total\x7boutcome=\x22" ++ o.name ++ "\x22\x7d"

def changeSeries (op : Operation) : String :=
  "metacache_events_total\x7boperation=\x22" ++ op.name ++ "\x22\x7d"

def allSeries : List String :=
  outcomeOrder.map messageSeries ++ operationOrder.map changeSeries ++
    ["metacache_ip_entries", "metacache_node_entries", "metacache_last_event_timestamp_seconds"]

def gaugeReadings (m : Metrics) : List (String × Option Int) := [
  ("metacache_ip_entries", some m.addressEntries.toInt),
  ("metacache_node_entries", some m.nodeEntries.toInt),
  ("metacache_last_event_timestamp_seconds", some m.lastChange.toInt)]

/-- The series with their numbers; an operation that was never recorded nor asked for has none. -/
def readings (m : Metrics) : List (String × Option Int) :=
  outcomeOrder.map (fun o => (messageSeries o, some ((m.messages o).toNat : Int))) ++
    operationOrder.map (fun op =>
      (changeSeries op, (m.changes? op).map fun n => (n.toNat : Int))) ++ m.gaugeReadings

theorem map_readings (m : Metrics) : m.readings.map Prod.fst = allSeries := rfl

theorem nodup_allSeries : allSeries.Nodup := by decide

theorem series_message (o : Outcome) (n : UInt64) :
    (counted "outcome" o.name n).series "metacache_messages" = messageSeries o := by
  show "metacache_messages" ++ "_total" ++
    ("\x7b" ++ "outcome" ++ "=\x22" ++ o.name ++ "\x22\x7d") = messageSeries o
  cases o <;> decide

theorem series_change (op : Operation) (n : UInt64) :
    (counted "operation" op.name n).series "metacache_events" = changeSeries op := by
  show "metacache_events" ++ "_total" ++
    ("\x7b" ++ "operation" ++ "=\x22" ++ op.name ++ "\x22\x7d") = changeSeries op
  cases op <;> decide

theorem samples_render (m : Metrics) :
    samples m.render = m.readings.filterMap fun r => r.2.map fun n => (r.1, toString n) := by
  rw [samples_render_of_legible (legible_families m)]
  simp only [families, readings, gaugeReadings, messageFamily, changeFamily, gauge,
    List.flatMap_cons, List.flatMap_nil, List.map_map, List.map_filterMap, Option.map_map,
    Function.comp_def, series_message, series_change, List.filterMap_append, List.filterMap_map]
  rfl

theorem filter_key {rs : List (String × Option Int)} (once : (rs.map Prod.fst).Nodup)
    {r : String × Option Int} (member : r ∈ rs) : rs.filter (·.1 = r.1) = [r] := by
  -- no key comes twice, so that to have the key of an entry is to be that entry
  have same : ∀ r' ∈ rs, decide (r'.1 = r.1) = decide (r' = r) := by
    intro r' among
    simp only [decide_eq_decide]
    exact ⟨fun key => List.inj_on_of_nodup_map once among member key, congrArg Prod.fst⟩
  rw [List.filter_congr same, List.filter_eq, List.count_eq_one_of_mem once.of_map member]
  rfl

theorem valuesOf_render {m : Metrics} {series : String} {i : Option Int}
    (member : (series, i) ∈ m.readings) : valuesOf m.render series = (i.map toString).toList := by
  have values : valuesOf m.render series =
      (m.readings.filter (·.1 = series)).filterMap fun r => r.2.map toString := by
    rw [valuesOf, samples_render, List.filter_filterMap, List.map_filterMap, List.filterMap_filter]
    refine List.filterMap_congr fun r _ => ?_
    by_cases same : r.1 = series <;> cases r.2 <;> simp [same]
  rw [values, filter_key (map_readings m ▸ nodup_allSeries) member, List.filterMap_cons]
  cases i <;> rfl

theorem toString_natCast (n : Nat) : toString (n : Int) = toString n := rfl

theorem valuesOf_messages (m : Metrics) (o : Outcome) :
    valuesOf m.render (messageSeries o) = [toString (m.messages o).toNat] := by
  have member : (messageSeries o, some ((m.messages o).toNat : Int)) ∈ m.readings :=
    List.mem_append_left _ (List.mem_append_left _
      (List.mem_map.2 ⟨o, by cases o <;> decide, rfl⟩))
  rw [valuesOf_render member, Option.map_some, toString_natCast]
  rfl

theorem valuesOf_changes (m : Metrics) (op : Operation) :
    valuesOf m.render (changeSeries op) =
      ((m.changes? op).map fun n => toString n.toNat).toList := by
  have member : (changeSeries op, (m.changes? op).map fun n => (n.toNat : Int)) ∈ m.readings :=
    List.mem_append_left _ (List.mem_append_right _
      (List.mem_map.2 ⟨op, by cases op <;> decide, rfl⟩))
  rw [valuesOf_render member, Option.map_map]
  simp only [Function.comp_def, toString_natCast]

theorem valuesOf_gauge {m : Metrics} {series : String} {i : Int}
    (member : (series, some i) ∈ m.gaugeReadings) : valuesOf m.render series = [toString i] :=
  valuesOf_render (List.mem_append_right _ member)

theorem series_of_sample {m : Metrics} {p : String × String} (member : p ∈ samples m.render) :
    p.1 ∈ allSeries := by
  rw [samples_render] at member
  obtain ⟨r, among, made⟩ := List.mem_filterMap.1 member
  obtain ⟨n, -, rfl⟩ := Option.map_eq_some_iff.1 made
  rw [← map_readings m]
  exact List.mem_map_of_mem among

end ClusterDirectory.Metrics
