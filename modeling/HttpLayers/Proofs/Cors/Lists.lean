import HttpLayers.Proofs.Cors.Stars
import HttpLayers.Proofs.Trim

namespace HttpLayers.Cors

open Http FieldValue Text

def methodsIn (entries : List String) : List Bytes :=
  (entries.filter fun entry => isToken entry.toList).map Bytes.ofString

def tokensIn (entries : List String) : List (List Char) :=
  (entries.map fun entry => trim entry.toList).filter isToken

def written (name : List Char) : Bytes :=
  Bytes.ofString (String.ofList (lower name))

-- A name has its length in 16 bits.
def namesIn (entries : List String) : List Bytes :=
  ((tokensIn entries).filter fun name => name.length ≤ 65535).map written

-- The values of one header that lists what is in `values`.
def joined (values : List Bytes) : List Bytes :=
  if values = [] then [] else [(Bytes.ofString ",").intercalate values]

-- The values of a header made from a list of entries; `instead` is what stands for a star beside
-- credentials.
inductive Renders (policy : Cors) (entries : Option (List String))
    (valid : List String → List Bytes) (instead : List Bytes) : List Bytes → Prop where
  | anything (starred : Starred entries) (plain : policy.allowCredentials = false) :
      Renders policy entries valid instead [Bytes.ofString "*"]
  | instead (starred : Starred entries) (credentials : policy.allowCredentials = true) :
      Renders policy entries valid instead instead
  | listed (starless : ¬Starred entries) :
      Renders policy entries valid instead (joined (valid (entries.getD [])))

section

variable {policy : Cors} {entries : Option (List String)}
  {valid : List String → List Bytes} {instead values : List Bytes}

theorem Renders.of_starless (starless : ¬Starred entries)
    (renders : Renders policy entries valid instead values) :
    values = joined (valid (entries.getD [])) := by
  cases renders with
  | anything starred => exact absurd starred starless
  | instead starred => exact absurd starred starless
  | listed => rfl

theorem Renders.of_credentials (starred : Starred entries)
    (credentials : policy.allowCredentials = true)
    (renders : Renders policy entries valid instead values) : values = instead := by
  cases renders with
  | anything _ plain => rw [credentials] at plain; cases plain
  | instead => rfl
  | listed starless => exact absurd starred starless

end

theorem only_listValue (values : List FieldValue) (asked : Option FieldValue) :
    ((Rule.only values).listValue asked).toList.map (·.bytes) =
      joined (values.map (·.bytes)) := by
  cases values with
  | nil => rfl
  | cons value rest => rfl

theorem readAll_method? (entries : Option (List String)) :
    (readAll method? entries).map (·.bytes) = methodsIn (entries.getD []) := by
  unfold readAll methodsIn
  induction entries.getD [] with
  | nil => rfl
  | cons entry rest ih =>
      by_cases token : isToken entry.toList = true <;> simp [method?,token,ih]

theorem readAll_headerName? (entries : Option (List String)) :
    (readAll headerName? entries).map (·.bytes) = namesIn (entries.getD []) := by
  unfold readAll namesIn tokensIn
  induction entries.getD [] with
  | nil => rfl
  | cons entry rest ih =>
      by_cases token : isToken (trim entry.toList) = true
      · by_cases fits : (trim entry.toList).length ≤ 65535 <;>
          simp [headerName?,FieldName.ofText?,token,fits,ih,written]
      · simp [headerName?,FieldName.ofText?,token,ih]

theorem ruleOf_renders (policy : Cors) {read : String → Option FieldValue}
    {valid : List String → List Bytes} {entries : Option (List String)}
    (reads : (readAll read entries).map (·.bytes) = valid (entries.getD []))
    (asked : Option FieldValue) :
    Renders policy entries valid (asked.toList.map (·.bytes))
      (((policy.ruleOf read entries).listValue asked).toList.map (·.bytes)) := by
  unfold ruleOf
  by_cases starred : Starred entries
  · rw [if_pos (hasStar_iff.mpr starred)]
    cases credentials : policy.allowCredentials with
    | true => exact .instead starred credentials
    | false => exact .anything starred credentials
  · rw [if_neg (mt hasStar_iff.mp starred),only_listValue,reads]
    exact .listed starred

theorem exposedRule_renders (policy : Cors) :
    Renders policy policy.exposedHeaders namesIn
      (joined (namesIn (starlessIn (policy.exposedHeaders.getD []))))
      ((policy.exposedRule.listValue none).toList.map (·.bytes)) := by
  unfold exposedRule
  by_cases starred : Starred policy.exposedHeaders
  · cases credentials : policy.allowCredentials with
    | true =>
        simp only [Bool.not_true,Bool.and_false,Bool.false_eq_true,if_false]
        rw [only_listValue,readAll_headerName?,starlessIn_getD]
        exact .instead starred credentials
    | false =>
        simp only [hasStar_iff.mpr starred,Bool.not_false,Bool.and_true,if_true]
        exact .anything starred credentials
  · have plain : ¬(hasStar policy.exposedHeaders && !policy.allowCredentials) = true := by
      intro both
      exact starred (hasStar_iff.mp (Bool.and_eq_true_iff.mp both).1)
    rw [if_neg plain,only_listValue,readAll_headerName?,starlessIn_getD,starlessIn_eq starred]
    exact .listed starred

def Silent (response : Response) : Prop :=
  ∀ name : FieldName, "access-control-".toList <+: name.text.toList →
    response.headers.values name = []

theorem answer_shown (policy : Cors) (request : Request) {response : Response}
    (silent : Silent response) :
    ∀ pair ∈ policy.shown request,
      (policy.answer request response).headers.values pair.1 = pair.2.toList := by
  intro pair member
  have own : pair.1 ≠ .of "vary" ∧ "access-control-".toList <+: pair.1.text.toList := by
    have names : ∀ name ∈ [allowCredentialsField,allowOrigin,allowMethods,allowHeaders,
      exposeHeaders], name ≠ .of "vary" ∧ "access-control-".toList <+: name.text.toList := by decide
    exact names pair.1 (List.mem_map_of_mem (f := Prod.fst) member)
  exact answer_values own.1 (fields_shown policy request pair member) (silent pair.1 own.2)

-- What an answer has of the three lists, and that none of the other kind of answer stands in it.
structure ShowsLists (policy : Cors) (request : Request)
    (carried : FieldName → List FieldValue) : Prop where
  methods : request.method = "OPTIONS" →
    Renders policy policy.allowedMethods methodsIn ((askedMethod request).toList.map (·.bytes))
      ((carried allowMethods).map (·.bytes))
  headers : request.method = "OPTIONS" →
    Renders policy policy.allowedHeaders namesIn ((askedHeaders request).toList.map (·.bytes))
      ((carried allowHeaders).map (·.bytes))
  exposed : request.method ≠ "OPTIONS" →
    Renders policy policy.exposedHeaders namesIn
      (joined (namesIn (starlessIn (policy.exposedHeaders.getD []))))
      ((carried exposeHeaders).map (·.bytes))
  preflight : request.method = "OPTIONS" → carried exposeHeaders = []
  actual : request.method ≠ "OPTIONS" → carried allowMethods = [] ∧ carried allowHeaders = []

structure StarsAsked (request : Request) (carried : FieldName → List FieldValue) : Prop where
  origin : star ∈ carried allowOrigin → request.headers.get? (.of "origin") = some star
  methods : star ∈ carried allowMethods → askedMethod request = some star
  headers : star ∈ carried allowHeaders → askedHeaders request = some star
  exposed : star ∉ carried exposeHeaders

section

variable {policy : Cors} {request : Request} {response : Response} (silent : Silent response)

include silent

theorem answer_showsLists :
    ShowsLists policy request (policy.answer request response).headers.values := by
  have carried := answer_shown policy request silent
  simp only [shown,List.forall_mem_cons] at carried
  obtain ⟨_,_,methods,headers,exposed,_⟩ := carried
  by_cases asked : request.method = "OPTIONS"
  · simp only [isPreflight_iff.mpr asked] at methods headers exposed
    refine ⟨fun _ => ?_,fun _ => ?_,absurd asked,fun _ => exposed,absurd asked⟩
    · rw [methods]
      exact ruleOf_renders policy (readAll_method? _) _
    · rw [headers]
      exact ruleOf_renders policy (readAll_headerName? _) _
  · simp only [mt isPreflight_iff.mp asked] at methods headers exposed
    refine ⟨(absurd · asked),(absurd · asked),fun _ => ?_,(absurd · asked),fun _ => ?_⟩
    · rw [exposed]
      exact exposedRule_renders policy
    · exact ⟨methods,headers⟩

theorem answer_starsAsked (credentials :
    (policy.answer request response).headers.values allowCredentialsField ≠ []) :
    StarsAsked request (policy.answer request response).headers.values := by
  have carried := answer_shown policy request silent
  simp only [shown,List.forall_mem_cons] at carried
  obtain ⟨own,origin,methods,headers,exposed,_⟩ := carried
  have allowed : policy.allowCredentials = true := by
    cases off : policy.allowCredentials with
    | true => rfl
    | false => exact absurd (by rw [own,off]; rfl) credentials
  have tame := rules_tame allowed
  simp only [rules,List.forall_mem_cons] at tame
  obtain ⟨originTame,methodTame,headerTame,exposedTame,_⟩ := tame
  constructor
  · rw [origin]
    exact fun member => originTame.sent (Option.mem_toList.mp member)
  · rw [methods]
    exact methodTame.carried
  · rw [headers]
    exact headerTame.carried
  · rw [exposed]
    intro member
    cases exposedTame.carried member

end

theorem lists_rendered {m : Type → Type} [Monad m] (policy : Cors) (inner : Service m)
    (request : Request) (response : Response) (silent : Silent response) :
    policy.layer inner request =
      (if request.method = "OPTIONS" then pure (policy.answer request response)
      else policy.answer request <$> inner request) ∧
    ShowsLists policy request (policy.answer request response).headers.values ∧
    (policy.allowCredentials = true → ∀ rule ∈ policy.rules, rule.isWildcard = false) ∧
    (∀ values, policy.originRule = .only values → star ∉ values) ∧
    ((policy.answer request response).headers.values allowCredentialsField ≠ [] →
      StarsAsked request (policy.answer request response).headers.values) := by
  refine ⟨layer_exact policy inner request response,answer_showsLists silent,?_,?_,
    answer_starsAsked silent⟩
  · intro credentials rule member
    exact (rules_tame credentials rule member).not_wildcard
  · intro values made
    exact ruleOf_only (fun _ => origin_star) made

def preflightFrom (origin method : FieldValue) : Request where
  method := "OPTIONS"
  headers := ⟨[(.of "origin",origin),(.of "access-control-request-method",method)]⟩

def starredMethods : Cors where
  allowedMethods := some ["GET"," * "]
  allowedHeaders := some ["X-A","b c"," x-b "]
  allowCredentials := true

def starredAnswer : Response :=
  starredMethods.answer (preflightFrom (.of "https://a.example") (.of "PUT")) { status := 200 }

theorem star_method_repeated :
    Silent { status := 200 } ∧
    (starredAnswer.headers.values allowMethods).map (·.bytes) = [Bytes.ofString "PUT"] ∧
    (starredAnswer.headers.values allowHeaders).map (·.bytes) = [Bytes.ofString "x-a,x-b"] := by
  have silent : Silent { status := 200 } := fun _ _ => rfl
  have lists := (lists_rendered starredMethods (fun _ => (pure { status := 200 } : Id Response))
    (preflightFrom (.of "https://a.example") (.of "PUT")) _ silent).2.1
  have starred : Starred starredMethods.allowedMethods := hasStar_iff.mp (by decide)
  have starless : ¬Starred starredMethods.allowedHeaders := mt hasStar_iff.mpr (by decide)
  refine ⟨silent,?_,?_⟩
  · exact (lists.methods rfl).of_credentials starred rfl
  · exact ((lists.headers rfl).of_starless starless).trans (by decide)

def longName (length : Nat) : String :=
  String.ofList (List.replicate length 'a')

theorem trim_longName (length : Nat) :
    trim (longName length).toList = List.replicate length 'a' := by
  have bare : Bare isBlank (List.replicate length 'a') := .of_all fun c member => by
    rw [List.eq_of_mem_replicate member]
    decide
  rw [longName,String.toList_ofList]
  exact strip_eq_iff.mpr ⟨[],[],by simp,nofun,nofun,bare⟩

theorem tokensIn_longName {length : Nat} (present : 0 < length) :
    tokensIn [longName length] = [List.replicate length 'a'] := by
  have token : isToken (List.replicate length 'a') = true := by
    rw [isToken,Bool.and_eq_true,List.all_eq_true]
    refine ⟨by simp [Nat.ne_of_gt present],fun c member => ?_⟩
    rw [List.eq_of_mem_replicate member]
    decide
  simp [tokensIn,trim_longName,token]

theorem namesIn_longName {length : Nat} (long : 65535 < length) :
    namesIn [longName length] = [] := by
  rw [namesIn,tokensIn_longName (by omega)]
  simp [long]

def exposing (length : Nat) : Cors where
  exposedHeaders := some [longName length]

theorem exposing_starless (length : Nat) : ¬Starred (exposing length).exposedHeaders := by
  rintro ⟨entry,listed,starred⟩
  cases List.mem_singleton.mp listed
  rw [trim_longName] at starred
  have member : '*' ∈ List.replicate length 'a' := starred ▸ List.mem_singleton_self _
  exact absurd (List.eq_of_mem_replicate member) (by decide)

-- Every token would be shown if its length were no matter.
theorem long_name_left_out :
    Silent { status := 200 } ∧ ({} : Request).method ≠ "OPTIONS" ∧
    ¬Renders (exposing 65536) (exposing 65536).exposedHeaders
      (fun entries => (tokensIn entries).map written)
      (joined ((tokensIn (starlessIn ((exposing 65536).exposedHeaders.getD []))).map written))
      ((((exposing 65536).answer {} { status := 200 }).headers.values exposeHeaders).map
        (·.bytes)) := by
  have silent : Silent { status := 200 } := fun _ _ => rfl
  have actual : ({} : Request).method ≠ "OPTIONS" := by decide
  refine ⟨silent,actual,fun renders => ?_⟩
  have starless := exposing_starless 65536
  have claimed := renders.of_starless starless
  rw [((answer_showsLists silent).exposed actual).of_starless starless] at claimed
  simp only [exposing,Option.getD_some] at claimed
  rw [namesIn_longName (by decide),tokensIn_longName (by decide)] at claimed
  cases claimed

end HttpLayers.Cors
