import Chronicle.Docker.Request
import Chronicle.Proofs.Encodings
import Chronicle.Proofs.Spellings
/-!
# What the path of a request says

A target is a path taken apart: its segments, and the parameters of its query. Whatever the name of
a container is, the path of a request about it has the target that the request means, with the name
in one place of it (`Request.name_stays_in_place`).
-/

namespace Chronicle

open Percent (Encoded Unreserved)

/-- A path taken apart. -/
structure Target where
  segments : List (List Char)
  /-- Keys and values. -/
  parameters : List (List Char × List Char)
deriving DecidableEq, Repr

namespace Target

/-- A key up to the first equals sign, and the value behind it. -/
def parameter (s : List Char) : List Char × List Char :=
  (s.takeWhile (· != '='), (s.dropWhile (· != '=')).tail)

/-- The parameters in what begins with a question mark. -/
def query : List Char → List (List Char × List Char)
  | [] => []
  | _ :: rest => (rest.splitOn '&').map parameter

/-- Takes a path apart. -/
def read (path : List Char) : Target :=
  ⟨(path.takeWhile (· != '?')).splitOn '/', query (path.dropWhile (· != '?'))⟩

/-- A parameter as it is written. -/
def parameterText (p : List Char × List Char) : List Char := p.1 ++ '=' :: p.2

/-- Parameters as they are written. -/
def queryText : List (List Char × List Char) → List Char
  | [] => []
  | ps => '?' :: ['&'].intercalate (ps.map parameterText)

/-- The path with a given target. -/
def text (t : Target) : List Char := ['/'].intercalate t.segments ++ queryText t.parameters

/-- All parts are encoded, so that none of them holds a separator. -/
structure Plain (t : Target) : Prop where
  rooted : t.segments ≠ []
  segments : ∀ s ∈ t.segments, Encoded s
  parameters : ∀ p ∈ t.parameters, Encoded p.1 ∧ Encoded p.2

theorem span_at {stop : Char} {first : List Char} (absent : stop ∉ first) (rest : List Char)
    (stops : rest = [] ∨ rest.head? = some stop) :
    (first ++ rest).takeWhile (· != stop) = first ∧
      (first ++ rest).dropWhile (· != stop) = rest := by
  have passes : ∀ c ∈ first, (c != stop) = true := by
    intro c mem
    simpa using fun same : c = stop => absent (same ▸ mem)
  rw [List.takeWhile_append_of_pos passes, List.dropWhile_append_of_pos passes]
  cases rest with
  | nil => simp
  | cons c rest =>
    obtain rfl : c = stop := by simpa using stops
    simp

theorem notMem_intercalate {c separator : Char} (other : c ≠ separator) {parts : List (List Char)}
    (absent : ∀ s ∈ parts, c ∉ s) : c ∉ [separator].intercalate parts := by
  induction parts with
  | nil => exact List.not_mem_nil
  | cons first parts ih =>
    obtain ⟨notFirst, notLater⟩ := List.forall_mem_cons.1 absent
    cases parts with
    | nil => rwa [List.intercalate_singleton]
    | cons next parts =>
      rw [List.intercalate_cons_cons, List.mem_append, List.mem_append, List.mem_singleton]
      rintro ((mem | mem) | mem)
      · exact notFirst mem
      · exact other mem
      · exact ih notLater mem

theorem parameter_text {key : List Char} (encoded : Encoded key) (value : List Char) :
    parameter (parameterText (key, value)) = (key, value) := by
  have absent : '=' ∉ key := encoded.notMem (by decide) (by decide)
  obtain ⟨before, behind⟩ := span_at absent ('=' :: value) (.inr rfl)
  rw [parameter, parameterText, before, behind]
  rfl

theorem query_text {ps : List (List Char × List Char)}
    (encoded : ∀ p ∈ ps, Encoded p.1 ∧ Encoded p.2) : query (queryText ps) = ps := by
  have single : ∀ s ∈ ps.map parameterText, '&' ∉ s := by
    intro s written
    obtain ⟨p, mem, rfl⟩ := List.mem_map.1 written
    have notKey : '&' ∉ p.1 := (encoded p mem).1.notMem (by decide) (by decide)
    have notValue : '&' ∉ p.2 := (encoded p mem).2.notMem (by decide) (by decide)
    simp [parameterText, notKey, notValue]
  have each : ∀ p ∈ ps, parameter (parameterText p) = p := fun p mem =>
    parameter_text (encoded p mem).1 p.2
  cases ps with
  | nil => rfl
  | cons p ps =>
    rw [queryText, query, List.splitOn_intercalate _ single (by simp), List.map_map]
    · exact (List.map_congr_left each).trans (List.map_id _)
    · exact fun none => nomatch none

/-- A plain target is read off its path. -/
theorem read_text {t : Target} (plain : t.Plain) : read t.text = t := by
  have noQuery : '?' ∉ ['/'].intercalate t.segments :=
    notMem_intercalate (by decide) fun s mem =>
      (plain.segments s mem).notMem (by decide) (by decide)
  have begins : queryText t.parameters = [] ∨ (queryText t.parameters).head? = some '?' := by
    cases t.parameters with
    | nil => exact .inl rfl
    | cons p ps => exact .inr rfl
  obtain ⟨before, behind⟩ := span_at noQuery _ begins
  have noSlash : ∀ s ∈ t.segments, '/' ∉ s := fun s mem =>
    (plain.segments s mem).notMem (by decide) (by decide)
  rw [read, text, before, behind, List.splitOn_intercalate _ noSlash plain.rooted,
    query_text plain.parameters]

end Target

namespace Request

/-! ## Times in a query -/

theorem unreserved_padded {width n : Nat} {c : Char} (mem : c ∈ Decimal.padded width n) :
    Unreserved c := by
  have digit := Decimal.isDigit_padded mem
  refine .inl ?_
  simp only [Decimal.isDigit, Bool.and_eq_true, decide_eq_true_eq] at digit
  simp only [Char.isAlphanum, Char.isDigit, Bool.or_eq_true, Bool.and_eq_true, decide_eq_true_eq]
  exact .inr digit

theorem encoded_bound (i : Instant) : Encoded (bound i) := by
  have digits (n : Nat) : ∀ c ∈ Decimal.digits n, Unreserved c := by
    intro c mem
    have padded : c ∈ Decimal.padded 0 n := by simpa [Decimal.padded] using mem
    exact unreserved_padded padded
  refine Percent.encoded_of_unreserved fun c mem => ?_
  rcases List.mem_append.1 mem with whole | part
  · unfold Decimal.signed at whole
    split at whole
    · rcases List.mem_cons.1 whole with rfl | digit
      · decide
      · exact digits _ c digit
    · exact digits _ c whole
  · rcases List.mem_cons.1 part with rfl | digit
    · decide
    · exact unreserved_padded digit

/-! ## Targets of requests -/

/-- Which part of the log is asked for. An earlier run is not followed, and ends where the last one
started. -/
def rangeParameters (options : StreamOptions) (started : Option Instant) :
    List (List Char × List Char) :=
  ("follow".toList, if options.follow ∧ ¬ options.previous then ['1'] else ['0']) ::
    ((if options.previous then started else none).toList.map (("until".toList, bound ·)) ++
      options.since.toList.map (("since".toList, bound ·)))

/-- What is asked for in a log: both outputs, with their times. -/
def logParameters (options : StreamOptions) (started : Option Instant) :
    List (List Char × List Char) :=
  ("stdout".toList, ['1']) :: ("stderr".toList, ['1']) :: ("timestamps".toList, ['1']) ::
    rangeParameters options started

/-- What a request means, with a name in one part of it: encoded itself, or in an encoded filter. -/
def target : Request → Target
  | .inspect name =>
    ⟨[[], "containers".toList, Percent.encode name, "json".toList], []⟩
  | .logs name options started =>
    ⟨[[], "containers".toList, Percent.encode name, "logs".toList], logParameters options started⟩
  | .events name =>
    ⟨[[], "events".toList], [("filters".toList, Percent.encode (String.ofList (filter name)))]⟩

theorem container_text (name last : List Char) :
    ['/'].intercalate [[], "containers".toList, name, last] =
      "/containers/".toList ++ name ++ '/' :: last := by
  have start : "/containers/".toList = '/' :: ("containers".toList ++ ['/']) := by decide
  simp only [start, List.intercalate_cons_cons, List.intercalate_singleton, List.nil_append,
    List.cons_append, List.append_assoc]

theorem queryText_cons (p : List Char × List Char) (ps : List (List Char × List Char)) :
    Target.queryText (p :: ps) =
      '?' :: (Target.parameterText p ++ ps.flatMap ('&' :: Target.parameterText ·)) := by
  rw [Target.queryText, List.map_cons]
  · congr 1
    induction ps generalizing p with
    | nil => simp
    | cons q ps ih => simp [List.intercalate_cons_cons, ih q]
  · exact fun none => nomatch none

/-- A parameter with a time, if there is one. -/
theorem time_text (start key : List Char) (spelled : start = '&' :: (key ++ ['=']))
    (time : Option Instant) :
    (match time with
      | some i => start ++ bound i
      | none => []) =
      (time.toList.map ((key, bound ·))).flatMap ('&' :: Target.parameterText ·) := by
  cases time with
  | none => rfl
  | some i => simp [spelled, Target.parameterText]

theorem range_eq (options : StreamOptions) (started : Option Instant) :
    range options started =
      (rangeParameters options started).flatMap ('&' :: Target.parameterText ·) := by
  have ends := time_text "&until=".toList "until".toList (by decide) started
  have begins := time_text "&since=".toList "since".toList (by decide) options.since
  unfold range rangeParameters
  rw [List.flatMap_cons, List.flatMap_append, ← begins]
  cases options.previous with
  | true =>
    rw [if_pos rfl, if_pos rfl, ← ends, if_neg (by simp), ← List.append_assoc]
    rfl
  | false =>
    cases options.follow with
    | true => rfl
    | false => rfl

theorem events_text (value : List Char) :
    (Target.mk [[], "events".toList] [("filters".toList, value)]).text =
      "/events?filters=".toList ++ value := by
  have start : "/events?filters=".toList =
    '/' :: ("events".toList ++ '?' :: ("filters".toList ++ ['='])) := by decide
  simp only [start, Target.text, Target.queryText, Target.parameterText, List.map_cons, List.map_nil,
    List.intercalate_cons_cons, List.intercalate_singleton, List.append_assoc, List.cons_append,
    List.nil_append]

theorem logsQuery_text (options : StreamOptions) (started : Option Instant) :
    '/' :: "logs".toList ++ Target.queryText (logParameters options started) =
      "/logs?stdout=1&stderr=1&timestamps=1".toList ++ range options started := by
  have fixed : "/logs?stdout=1&stderr=1&timestamps=1".toList = '/' :: "logs".toList ++
      '?' :: (Target.parameterText ("stdout".toList, ['1']) ++
        ('&' :: Target.parameterText ("stderr".toList, ['1']) ++
          '&' :: Target.parameterText ("timestamps".toList, ['1']))) := by decide
  rw [logParameters, queryText_cons, List.flatMap_cons, List.flatMap_cons, ← range_eq, fixed]
  simp only [List.append_assoc, List.cons_append]

theorem logs_text (name : List Char) (options : StreamOptions) (started : Option Instant) :
    (Target.mk [[], "containers".toList, name, "logs".toList] (logParameters options started)).text =
      "/containers/".toList ++ name ++
        ("/logs?stdout=1&stderr=1&timestamps=1".toList ++ range options started) := by
  rw [← logsQuery_text, ← List.append_assoc, ← container_text, Target.text]

/-- The path of a request is the text of its target. -/
theorem pathChars_eq (r : Request) : r.pathChars = r.target.text := by
  cases r with
  | inspect name =>
    rw [target, Target.text, container_text, Target.queryText, List.append_nil]
    rfl
  | logs name options started =>
    exact (List.append_assoc _ _ _).trans (logs_text (Percent.encode name) options started).symm
  | events name => exact (events_text _).symm

theorem containerSegments_encoded (name : String) {last : List Char} (encoded : Encoded last) :
    ∀ s ∈ [[], "containers".toList, Percent.encode name, last], Encoded s := by
  have containers : Encoded "containers".toList := Percent.encoded_word (by decide)
  simp only [List.forall_mem_cons]
  exact ⟨.nil, containers, Percent.encoded_encode name, encoded, nofun⟩

theorem rangeParameters_encoded (options : StreamOptions) (started : Option Instant) :
    ∀ p ∈ rangeParameters options started, Encoded p.1 ∧ Encoded p.2 := by
  have follow : Encoded "follow".toList := Percent.encoded_word (by decide)
  have ends : Encoded "until".toList := Percent.encoded_word (by decide)
  have begins : Encoded "since".toList := Percent.encoded_word (by decide)
  have yes : Encoded ['1'] := Percent.encoded_word (by decide)
  have no : Encoded ['0'] := Percent.encoded_word (by decide)
  intro p mem
  rcases List.mem_cons.1 mem with rfl | mem
  · refine ⟨follow, ?_⟩
    dsimp only
    split
    · exact yes
    · exact no
  rcases List.mem_append.1 mem with mem | mem
  · obtain ⟨i, -, rfl⟩ := List.mem_map.1 mem
    exact ⟨ends, encoded_bound i⟩
  · obtain ⟨i, -, rfl⟩ := List.mem_map.1 mem
    exact ⟨begins, encoded_bound i⟩

theorem logParameters_encoded (options : StreamOptions) (started : Option Instant) :
    ∀ p ∈ logParameters options started, Encoded p.1 ∧ Encoded p.2 := by
  have yes : Encoded ['1'] := Percent.encoded_word (by decide)
  simp only [logParameters, List.forall_mem_cons]
  exact ⟨⟨Percent.encoded_word (by decide), yes⟩,
    ⟨Percent.encoded_word (by decide), yes⟩,
    ⟨Percent.encoded_word (by decide), yes⟩, rangeParameters_encoded options started⟩

theorem target_plain (r : Request) : r.target.Plain := by
  cases r with
  | inspect name =>
    have json : Encoded "json".toList := Percent.encoded_word (by decide)
    exact ⟨List.cons_ne_nil _ _, containerSegments_encoded name json, nofun⟩
  | logs name options started =>
    have logs : Encoded "logs".toList := Percent.encoded_word (by decide)
    exact ⟨List.cons_ne_nil _ _, containerSegments_encoded name logs,
      logParameters_encoded options started⟩
  | events name =>
    have events : Encoded "events".toList := Percent.encoded_word (by decide)
    have filters : Encoded "filters".toList := Percent.encoded_word (by decide)
    refine ⟨List.cons_ne_nil _ _, ?_, ?_⟩
    · simp only [target, List.forall_mem_cons]
      exact ⟨.nil, events, nofun⟩
    · simp only [target, List.forall_mem_singleton]
      exact ⟨filters, Percent.encoded_encode _⟩

/-- A request's path is read as what the request means. -/
theorem read_path (r : Request) : Target.read r.path.toList = r.target := by
  rw [path, String.toList_ofList, pathChars_eq, Target.read_text r.target_plain]

/-! ## Filters -/

/-- Events of one container. -/
def filterTable (name : String) : Datum :=
  .table [("container", .array [.text name]), ("type", .array [.text "container"])]

theorem filter_eq (name : String) : filter name =
    '\x7b' :: (Json.quote "container" ++ ':' :: '[' :: (Json.quote name ++ ']' :: ',' ::
      (Json.quote "type" ++ ':' :: '[' :: (Json.quote "container" ++ [']', '\x7d'])))) := by
  have before : "\x7b\"container\":[".toList = '\x7b' :: (Json.quote "container" ++ [':', '[']) := by
    decide
  have behind : "],\"type\":[\"container\"]\x7d".toList =
      ']' :: ',' :: (Json.quote "type" ++ ':' :: '[' :: (Json.quote "container" ++ [']', '\x7d'])) := by
    decide
  unfold filter
  simp only [before, behind, List.append_assoc, List.cons_append, List.nil_append]

/-- The filter that is sent is read as one name of a container and one type. -/
theorem read_filter (name : String) :
    Json.read (Utf8.encode (filter name)) = .ok (filterTable name) := by
  have written : Utf8.encode (filter name) =
      Json.byte '\x7b' :: (Utf8.encode (Json.quote "container") ++ Json.byte ':' ::
        Json.byte '[' :: (Utf8.encode (Json.quote name) ++ Json.byte ']' :: Json.byte ',' ::
          (Utf8.encode (Json.quote "type") ++ Json.byte ':' ::
            Json.byte '[' :: (Utf8.encode (Json.quote "container") ++ Json.byte ']' ::
              [Json.byte '\x7d'])))) := by
    simp (disch := decide) only [filter_eq, Json.encode_sign, Utf8.encode_append, Utf8.encode_nil]
  have table : filterTable name = Json.tableOf
      [("container", .array [.text name]), ("type", .array [.text "container"])] := rfl
  have value : Json.value Json.maxDepth (Utf8.encode (filter name)) = .ok (filterTable name, []) := by
    rw [written, table]
    refine Json.value_of_members ?_
    -- Three rounds of the loop: two entries and the closing bracket.
    generalize fuel : List.length _ + 1 = n
    obtain ⟨n, rfl⟩ : ∃ k, n = k + 3 := ⟨n - 3, by simp at fuel; omega⟩
    exact Json.members_first "container" (Json.value_of_singleton 125 name _)
      (Json.members_next "type" (Json.value_of_singleton 125 "container" _) (Json.members_close false))
  rw [Json.read, Json.whole, value]
  rfl

/-! ## Names -/

theorem name_eq_of_filter_eq {name name' : String} (same : filter name = filter name') :
    name = name' := by
  have read := read_filter name
  rw [same, read_filter name', Except.ok.injEq] at read
  simp only [filterTable, Datum.table.injEq, List.cons.injEq, Prod.mk.injEq, Datum.array.injEq,
    Datum.text.injEq, true_and, and_true] at read
  exact read.symm

/-- A name is one part of what a request means, and can be told from it. -/
theorem name_eq_of_target_eq {r r' : Request} (same : r.target = r'.target) : r.name = r'.name := by
  have third : r.target.segments[2]? = r'.target.segments[2]? := by rw [same]
  cases r <;> cases r'
  case events.events name name' =>
    have filters := congrArg Target.parameters same
    simp only [target, List.cons.injEq, Prod.mk.injEq, true_and, and_true] at filters
    exact name_eq_of_filter_eq (String.ofList_injective (Percent.encode_injective filters))
  -- Either both paths have a third segment, which is the name, or one of them has none.
  all_goals first
    | exact Percent.encode_injective (Option.some.inj third)
    | cases third

/-- Whatever the name of a container is, it stays in its place in the path of a request. In a
question about the container or its log it is one segment; percent decoding gives the name back. In a
question about events it is in the value of one parameter; this is the encoding of a filter which
asks for that name. No name changes the other parts, and different names give different paths. -/
theorem name_stays_in_place (name : String) (options : StreamOptions) (started : Option Instant) :
    (∃ part, Encoded part ∧ (Percent.decode? part).bind Utf8.decode? = some name.toList ∧
      Target.read (inspect name).path.toList =
        ⟨[[], "containers".toList, part, "json".toList], []⟩ ∧
      Target.read (logs name options started).path.toList =
        ⟨[[], "containers".toList, part, "logs".toList], logParameters options started⟩) ∧
    (∃ filters, Encoded filters ∧
      (Percent.decode? filters).map Json.read = some (.ok (filterTable name)) ∧
      Target.read (events name).path.toList =
        ⟨[[], "events".toList], [("filters".toList, filters)]⟩) ∧
    ∀ r r' : Request, r.name ≠ r'.name → r.path ≠ r'.path := by
  refine ⟨⟨Percent.encode name, Percent.encoded_encode name, ?_, read_path _, read_path _⟩,
    ⟨_, Percent.encoded_encode _, ?_, read_path _⟩, ?_⟩
  · rw [Percent.decode?_encode, Option.bind_some, Utf8.bytes, Utf8.decode?_encode]
  · rw [Percent.decode?_encode, Option.map_some, Utf8.bytes, String.toList_ofList, read_filter]
  · intro r r' different same
    apply different
    apply name_eq_of_target_eq
    rw [← read_path, ← read_path, same]

theorem separators_stay_in_place :
    (inspect "web/json?all=1&size=%\"\\").name ≠ (inspect "web").name ∧
      (inspect "web/json?all=1&size=%\"\\").path ≠ (inspect "web").path :=
  have different : (inspect "web/json?all=1&size=%\"\\").name ≠ (inspect "web").name := by decide
  ⟨different, (name_stays_in_place "web" {} none).2.2 _ _ different⟩

end Request

end Chronicle
