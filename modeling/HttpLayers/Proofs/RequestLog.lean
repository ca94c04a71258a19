import HttpLayers.Policy.RequestLogger
import HttpLayers.Proofs.Parts

-- What a log tells of a request is its method, its path and what the policy asks for besides. So where
-- neither queries nor headers are asked for, requests that differ in anything else leave one log.

namespace HttpLayers.Http.Target

open Text

variable {target : Target} {uri : String}

-- Behind an authority the path may be missing. Then a query stands alone, and without one the slash
-- that is meant is written out.
inductive Shows (target : Target) : Bool → String → Prop where
  | path : Shows target false target.path
  | plain (unqueried : target.query = none) : Shows target true target.path
  | origin {path query : String} (form : target = .origin path (some query)) :
      Shows target true (path ++ "?" ++ query)
  | absolute {scheme authority path query : String}
      (form : target = .absolute scheme authority path (some query)) :
      Shows target true (path ++ "?" ++ query)

theorem querySuffix_some (query : String) : querySuffix (some query) = "?" ++ query := rfl

theorem written_ne_empty (path query : String) : (path ++ ("?" ++ query)).isEmpty = false := by
  simp

theorem shows_whole : Shows target true (target.pathAndQuery?.getD target.path) := by
  cases target with
  | authority => exact .plain rfl
  | origin path query =>
      cases query with
      | none =>
          rw [pathAndQuery?,querySuffix,String.append_empty]
          exact .plain rfl
      | some query =>
          rw [pathAndQuery?,querySuffix_some,← String.append_assoc]
          exact .origin rfl
  | absolute _ _ path query =>
      cases query with
      | none =>
          rw [pathAndQuery?,querySuffix,String.append_empty]
          exact .plain rfl
      | some query =>
          rw [pathAndQuery?,querySuffix_some,written_ne_empty,← String.append_assoc]
          exact .absolute rfl

theorem Shows.unique {queried : Bool} {other : String} (shows : Shows target queried uri)
    (also : Shows target queried other) : uri = other := by
  cases shows with
  | path =>
      cases also
      rfl
  | plain unqueried =>
      cases also with
      | plain => rfl
      | origin form | absolute form =>
          subst form
          cases unqueried
  | origin form =>
      subst form
      cases also with
      | plain unqueried => cases unqueried
      | origin form => cases form; rfl
      | absolute form => cases form
  | absolute form =>
      subst form
      cases also with
      | plain unqueried => cases unqueried
      | origin form => cases form
      | absolute form => cases form; rfl

theorem readPath_unqueried {s path : List Char} {query : Option (List Char)}
    (read : readPath s = some (path,query)) : '?' ∉ path := by
  unfold readPath at read
  dsimp only at read
  split at read
  · rename_i whole
    split at read
    · cases read
      exact splitOnce_eq_none_iff.mp whole
    · cases read
  · rename_i cut
    split at read
    · cases read
      exact (splitOnce_eq_some_iff.mp cut).2
    · cases read

theorem readAbsolute_unqueried {scheme rest : List Char}
    (read : readAbsolute scheme rest = some target) : '?' ∉ target.path.toList := by
  obtain ⟨parts,cut,formed⟩ := Option.bind_eq_some_iff.mp read
  have apart := readPath_unqueried cut
  dsimp only at formed
  split at formed
  · cases formed
    rw [path]
    split
    · decide
    · rwa [String.toList_ofList]
  · cases formed

theorem path_unqueried {text : String} (read : ofString? text = some target) :
    '?' ∉ target.path.toList := by
  unfold ofString? at read
  split at read
  · cases read
  split at read
  · cases read
  · cases read
    decide
  · obtain ⟨parts,cut,formed⟩ := Option.bind_eq_some_iff.mp read
    cases formed
    rw [path,String.toList_ofList]
    exact readPath_unqueried cut
  · split at read
    · exact readAbsolute_unqueried read
    · split at read
      · cases read
        exact List.not_mem_nil
      · cases read

end HttpLayers.Http.Target

namespace HttpLayers.RequestLogger

open Http Target

variable {policy : RequestLogger} {request other : Request} {requestId : Option String}
  {response answer : Response} {latency : Duration} {entry : LogSpan × LogEvent}

def Skips (policy : RequestLogger) (path : String) : Prop :=
  ∃ paths, policy.skipPaths = some paths ∧ path ∈ paths

-- The span and the event inside it.
structure Records (policy : RequestLogger) (request : Request) (requestId : Option String)
    (response : Response) (latency : Duration) (entry : LogSpan × LogEvent) : Prop where
  unskipped : ¬policy.Skips request.path
  spanLevel : entry.1.level = policy.level
  eventLevel : entry.2.level = policy.level
  method : entry.1.method = request.method
  uri : Shows request.target policy.includeQuery entry.1.uri
  requestId : entry.1.requestId = requestId
  headers : ∀ text, entry.1.headers = some text ↔
    policy.includeHeaders = true ∧ text = request.headers.shown
  status : entry.2.status = response.status
  latency : entry.2.latencyMs = latency.wholeMillis % UInt64.size

theorem logs_eq_false_iff {path : String} : policy.logs path = false ↔ policy.Skips path := by
  rw [logs,Bool.not_eq_false']
  exact isListed_iff

theorem shows_recorded (policy : RequestLogger) (target : Target) :
    Shows target policy.includeQuery (policy.recordedTarget target) := by
  unfold recordedTarget
  cases policy.includeQuery with
  | false => exact .path
  | true => exact shows_whole

theorem openSpan_eq (policy : RequestLogger) (method uri : String) :
    policy.openSpan method uri = { level := policy.level,method,uri } := by
  unfold openSpan
  cases policy.level <;> rfl

theorem span?_eq_none_iff :
    policy.span? request requestId = none ↔ policy.Skips request.path := by
  rw [← logs_eq_false_iff,span?]
  cases policy.logs request.path <;> simp

theorem onResponse_some (policy : RequestLogger) (span : LogSpan) (status : UInt16)
    (latency : Duration) : policy.onResponse (some span) status latency =
      some { level := policy.level,status,latencyMs := latencyMs latency } := by
  unfold onResponse
  cases policy.level <;> rfl

-- No span goes without its event, and no event is told outside a span.
theorem onResponse_isSome (policy : RequestLogger) (span : Option LogSpan) (status : UInt16)
    (latency : Duration) : (policy.onResponse span status latency).isSome = span.isSome := by
  cases span with
  | none => rfl
  | some span => rw [onResponse_some,Option.isSome_some,Option.isSome_some]

theorem log_eq (policy : RequestLogger) (request : Request) (requestId : Option String)
    (status : UInt16) (latency : Duration) : policy.log request requestId status latency =
      (policy.span? request requestId).map fun span =>
        (span,{ level := policy.level,status,latencyMs := latencyMs latency }) := by
  unfold log
  cases policy.span? request requestId with
  | none => rfl
  | some span =>
      simp only [onResponse_some]
      rfl

theorem log_eq_none_iff : policy.log request requestId response.status latency = none ↔
    policy.Skips request.path := by
  rw [log_eq,Option.map_eq_none_iff,span?_eq_none_iff]

theorem records_of_log (logged : policy.log request requestId response.status latency = some entry) :
    policy.Records request requestId response latency entry := by
  have unskipped : ¬policy.Skips request.path := by
    rw [← log_eq_none_iff,logged]
    exact Option.some_ne_none entry
  have logs : policy.logs request.path = true :=
    eq_true_of_ne_false (mt logs_eq_false_iff.mp unskipped)
  rw [log_eq,span?,if_pos logs,openSpan_eq] at logged
  cases logged
  refine ⟨unskipped,rfl,rfl,rfl,shows_recorded policy request.target,rfl,?_,rfl,rfl⟩
  intro text
  cases policy.includeHeaders <;> simp [eq_comm]

attribute [ext] LogSpan LogEvent

theorem Records.unique {also : LogSpan × LogEvent}
    (one : policy.Records request requestId response latency entry)
    (another : policy.Records request requestId response latency also) : entry = also := by
  have headers : entry.1.headers = also.1.headers :=
    Option.ext fun text => (one.headers text).trans (another.headers text).symm
  have span : entry.1 = also.1 := LogSpan.ext (one.spanLevel.trans another.spanLevel.symm)
    (one.method.trans another.method.symm) (one.uri.unique another.uri)
    (one.requestId.trans another.requestId.symm) headers
  have event : entry.2 = also.2 := LogEvent.ext (one.eventLevel.trans another.eventLevel.symm)
    (one.status.trans another.status.symm) (one.latency.trans another.latency.symm)
  exact Prod.ext span event

theorem log_eq_some_iff : policy.log request requestId response.status latency = some entry ↔
    policy.Records request requestId response latency entry := by
  refine ⟨records_of_log,fun records => ?_⟩
  obtain ⟨written,logged⟩ := Option.ne_none_iff_exists'.mp (mt log_eq_none_iff.mp records.unskipped)
  rw [logged,records.unique (records_of_log logged)]

-- The path alone says which requests are skipped, and here it is all that is told of the target.
theorem Records.hidden (unqueried : policy.includeQuery = false)
    (headless : policy.includeHeaders = false) (method : other.method = request.method)
    (path : other.path = request.path) (status : answer.status = response.status)
    (records : policy.Records request requestId response latency entry) :
    policy.Records other requestId answer latency entry where
  unskipped := path ▸ records.unskipped
  spanLevel := records.spanLevel
  eventLevel := records.eventLevel
  method := records.method.trans method.symm
  uri := by
    have shown := records.uri
    rw [unqueried] at shown ⊢
    have alone : entry.1.uri = other.path := (shown.unique .path).trans path.symm
    rw [alone]
    exact .path
  requestId := records.requestId
  headers := by
    intro text
    rw [records.headers,headless]
    simp
  status := records.status.trans status.symm
  latency := records.latency

theorem log_exact (policy : RequestLogger) (request : Request) (requestId : Option String)
    (response : Response) (latency : Duration) :
    (policy.log request requestId response.status latency = none ↔
      ∃ paths, policy.skipPaths = some paths ∧ request.path ∈ paths) ∧
    (∀ entry, policy.log request requestId response.status latency = some entry ↔
      policy.Records request requestId response latency entry) ∧
    (policy.onResponse (policy.span? request requestId) response.status latency).isSome =
      (policy.span? request requestId).isSome ∧
    (policy.includeQuery = false → ∀ text, Target.ofString? text = some request.target →
      ∀ entry, policy.log request requestId response.status latency = some entry →
        entry.1.uri = request.path ∧ '?' ∉ entry.1.uri.toList) ∧
    (policy.includeQuery = false → policy.includeHeaders = false →
      ∀ (other : Request) (answer : Response), other.method = request.method →
        other.path = request.path → answer.status = response.status →
        policy.log other requestId answer.status latency =
          policy.log request requestId response.status latency) := by
  refine ⟨log_eq_none_iff,fun _ => log_eq_some_iff,onResponse_isSome policy _ _ _,?bare,?hidden⟩
  case bare =>
    intro unqueried text read entry logged
    have shown := (records_of_log logged).uri
    rw [unqueried] at shown
    have alone : entry.1.uri = request.path := shown.unique .path
    exact ⟨alone,alone ▸ path_unqueried read⟩
  case hidden =>
    intro unqueried headless other answer method path status
    refine Option.ext fun entry => ?_
    rw [log_eq_some_iff,log_eq_some_iff]
    exact ⟨.hidden unqueried headless method.symm path.symm status.symm,
      .hidden unqueried headless method path status⟩

end HttpLayers.RequestLogger
