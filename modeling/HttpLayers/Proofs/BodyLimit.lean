import HttpLayers.Policy.BodyLimit
import HttpLayers.Proofs.FieldValue
import HttpLayers.Proofs.Integer

-- The limit is enforced twice, on the length that a request declares and on the bytes that are read,
-- and both end in the one rejection.

namespace HttpLayers.BodyLimit

open Http FieldValue Text Integer

structure ReadsAs (value : FieldValue) (length : Nat) : Prop where
  printable : ∀ b ∈ value.bytes, IsPrintable b
  numeral : Numeral value.bytes.toChars length
  fits : length < UInt64.size

theorem readsAs_iff {value : FieldValue} {length : Nat} :
    ReadsAs value length ↔
      ((text? value).bind fun text => (natural64 text).toOption) = some length := by
  have reads : ∀ text, (natural64 text).toOption = some length ↔
      Numeral text length ∧ length < UInt64.size := by
    intro text
    rw [← natural64_eq_ok_iff]
    cases natural64 text <;> simp [Except.toOption]
  rw [Option.bind_eq_some_iff]
  constructor
  · intro reading
    obtain ⟨printable,numeral,fits⟩ := reading
    exact ⟨_,text?_eq_some_iff.mpr ⟨printable,rfl⟩,(reads _).mpr ⟨numeral,fits⟩⟩
  · intro read
    obtain ⟨text,found,number⟩ := read
    obtain ⟨printable,rfl⟩ := text?_eq_some_iff.mp found
    obtain ⟨numeral,fits⟩ := (reads _).mp number
    exact ⟨printable,numeral,fits⟩

-- Of several values only the first declares a length, and no other takes its place where it declares
-- none.
structure Declares (request : Request) (value : FieldValue) (length : Nat) : Prop where
  first : request.headers.get? (.of "content-length") = some value
  reads : ReadsAs value length

theorem declaredLength?_exact {request : Request} {length : Nat} :
    declaredLength? request = some length ↔ ∃ value, Declares request value length := by
  have parts : declaredLength? request = (request.headers.get? (.of "content-length")).bind fun value =>
      (text? value).bind fun text => (natural64 text).toOption := Option.bind_assoc ..
  rw [parts,Option.bind_eq_some_iff]
  constructor
  · intro found
    obtain ⟨value,first,read⟩ := found
    exact ⟨value,first,readsAs_iff.mpr read⟩
  · intro found
    obtain ⟨value,first,reads⟩ := found
    exact ⟨value,first,readsAs_iff.mp reads⟩

-- No length is past a limit below zero.
def Exceeds (policy : BodyLimit) (length : Nat) : Prop :=
  0 ≤ policy.limit ∧ policy.limit < length

theorem cap?_lt_iff {policy : BodyLimit} {length : Nat} :
    (∃ most, policy.cap? = some most ∧ most < length) ↔ policy.Exceeds length := by
  unfold cap? Exceeds
  by_cases limited : 0 ≤ policy.limit
  · simp only [if_pos limited,Option.some.injEq,exists_eq_left']
    omega
  · simp [limited]

theorem admits_exact {policy : BodyLimit} {length : Nat} :
    policy.readCap.admits length = true ↔ ¬policy.Exceeds length := by
  rw [← cap?_lt_iff,readCap]
  cases policy.cap? with
  | none => simp [ReadCap.admits]
  | some most => simp [ReadCap.admits]

def DeclaresTooMuch (policy : BodyLimit) (request : Request) : Prop :=
  ∃ value length, Declares request value length ∧ policy.Exceeds length

theorem refuses_exact {policy : BodyLimit} {request : Request} :
    policy.refuses request = true ↔ policy.DeclaresTooMuch request := by
  have refused : policy.refuses request = true ↔ ∃ length,
      declaredLength? request = some length ∧ ∃ most, policy.cap? = some most ∧ most < length := by
    unfold refuses
    cases declaredLength? request <;> cases policy.cap? <;> simp
  rw [refused]
  constructor
  · intro declared
    obtain ⟨length,declared,exceeds⟩ := declared
    obtain ⟨value,declares⟩ := declaredLength?_exact.mp declared
    exact ⟨value,length,declares,cap?_lt_iff.mp exceeds⟩
  · intro declared
    obtain ⟨value,length,declares,exceeds⟩ := declared
    exact ⟨length,declaredLength?_exact.mpr ⟨value,declares⟩,cap?_lt_iff.mpr exceeds⟩

-- The handler gets the body.
inductive Received (policy : BodyLimit) (request : Request) : Prop where
  | unlimited (negative : policy.limit < 0) : Received policy request
  | within (read : request.body.length ≤ policy.limit)
      (declared : ∀ value length, Declares request value length → length ≤ policy.limit) :
      Received policy request

theorem received_iff {policy : BodyLimit} {request : Request} :
    Received policy request ↔
      ¬policy.DeclaresTooMuch request ∧ ¬policy.Exceeds request.body.length := by
  constructor
  · intro received
    cases received with
    | unlimited negative =>
        refine ⟨?_,fun exceeds => by have := exceeds.1; omega⟩
        intro declared
        obtain ⟨_,_,_,exceeds⟩ := declared
        have := exceeds.1
        omega
    | within read declared =>
        refine ⟨?_,fun exceeds => by have := exceeds.2; omega⟩
        intro tooMuch
        obtain ⟨value,length,declares,exceeds⟩ := tooMuch
        have small := declared value length declares
        have large := exceeds.2
        omega
  · intro passed
    obtain ⟨declared,read⟩ := passed
    by_cases limited : 0 ≤ policy.limit
    · refine .within ?_ ?_
      · exact Int.not_lt.mp fun large => read ⟨limited,large⟩
      · intro value length declares
        exact Int.not_lt.mp fun large => declared ⟨value,length,declares,limited,large⟩
    · exact .unlimited (Int.not_le.mp limited)

section

variable {m : Type → Type} [Monad m] {policy : BodyLimit} {request : Request}

theorem layer_refused (refused : policy.DeclaresTooMuch request) (inner : Service m) :
    policy.layer inner request = pure policy.rejection := by
  rw [layer,if_pos (refuses_exact.mpr refused)]

theorem layer_passed (passed : ¬policy.DeclaresTooMuch request) (inner : Service m) :
    policy.layer inner request =
      (fun response => if response.status = 413 then policy.rejection else response) <$>
        inner { request with readCap := policy.readCap } := by
  rw [layer,if_neg (mt refuses_exact.mp passed)]

-- A handler of bodies that keeps every body it is given.
def keeping (handler : Bytes → m Response) : Bytes → StateT (List Bytes) m Response :=
  fun body kept => (fun response => (response,kept ++ [body])) <$> handler body

def run (policy : BodyLimit) (handler : Bytes → m Response) (request : Request)
    (kept : List Bytes) : m (Response × List Bytes) :=
  (policy.layer (readingBody (keeping handler)) request).run kept

variable [LawfulMonad m]

theorem run_received (received : Received policy request) (handler : Bytes → m Response)
    (kept : List Bytes) :
    policy.run handler request kept =
      (fun response => (if response.status = 413 then policy.rejection else response,
        kept ++ [request.body])) <$> handler request.body := by
  obtain ⟨declared,read⟩ := received_iff.mp received
  rw [run,layer_passed declared,readingBody,if_pos (admits_exact.mpr read),StateT.run_map]
  change _ <$> ((fun response => (response,kept ++ [request.body])) <$> handler request.body) = _
  rw [Functor.map_map]

theorem run_rejected (rejected : ¬Received policy request) (handler : Bytes → m Response)
    (kept : List Bytes) :
    policy.run handler request kept = pure (policy.rejection,kept) := by
  by_cases declared : policy.DeclaresTooMuch request
  · rw [run,layer_refused declared]
    rfl
  · have read : ¬policy.readCap.admits request.body.length = true := by
      rw [admits_exact]
      exact fun small => rejected (received_iff.mpr ⟨declared,small⟩)
    rw [run,layer_passed declared,readingBody,if_neg read,StateT.run_map,StateT.run_pure,map_pure]
    rfl

-- Whichever of the two finds the excess, the answer is the same, and nothing of what the service
-- answered with is left in it.
theorem limit_exact (policy : BodyLimit) (request : Request) (handler : Bytes → m Response)
    (inner : Service m) (kept : List Bytes) :
    (Received policy request → policy.run handler request kept =
      (fun response => (if response.status = 413 then policy.rejection else response,
        kept ++ [request.body])) <$> handler request.body) ∧
    (¬Received policy request →
      policy.run handler request kept = pure (policy.rejection,kept)) ∧
    (policy.DeclaresTooMuch request → policy.layer inner request = pure policy.rejection) ∧
    (¬policy.DeclaresTooMuch request → policy.layer inner request =
      (fun response => if response.status = 413 then policy.rejection else response) <$>
        inner { request with readCap := policy.readCap }) ∧
    policy.rejection.status =
      (if 100 ≤ policy.statusCode ∧ policy.statusCode ≤ 999 then policy.statusCode else 413) ∧
    policy.rejection.headers.fields =
      [(.of "content-type",.of "text/plain; charset=utf-8")] ∧
    policy.rejection.body = Bytes.ofString policy.message := by
  refine ⟨fun received => run_received received handler kept,
    fun rejected => run_rejected rejected handler kept,fun refused => layer_refused refused inner,
    fun passed => layer_passed passed inner,?_,rfl,rfl⟩
  simp only [rejection,Response.ofText,rejectionStatus,Bool.and_eq_true,decide_eq_true_eq]

end

def echo (body : Bytes) : Id Response :=
  pure { status := 200,body }

theorem received_of_declared {policy : BodyLimit} {request : Request} {length : Nat}
    (declared : declaredLength? request = some length) (small : length ≤ policy.limit)
    (read : request.body.length ≤ policy.limit) : Received policy request := by
  refine .within read ?_
  intro value other declares
  cases Option.some.inj (declared.symm.trans (declaredLength?_exact.mpr ⟨value,declares⟩))
  exact small

-- It declares one byte less than it has.
def underdeclared : Request where
  headers := ⟨[(.of "content-length",.of "3")]⟩
  body := Bytes.ofString "abcd"

theorem underdeclared_exact :
    ({ limit := 4 } : BodyLimit).run echo underdeclared [] =
        (pure ({ status := 200,body := Bytes.ofString "abcd" },[Bytes.ofString "abcd"]) : Id _) ∧
      ({ limit := 3 } : BodyLimit).run echo underdeclared [] =
        (pure (({ limit := 3 } : BodyLimit).rejection,[]) : Id _) := by
  have declared : declaredLength? underdeclared = some 3 := by decide
  constructor
  · exact (limit_exact _ underdeclared echo (readingBody echo) []).1
      (received_of_declared declared (by decide) (by decide))
  · refine (limit_exact _ underdeclared echo (readingBody echo) []).2.1 ?_
    intro received
    have read := (received_iff.mp received).2
    exact read ⟨by decide,by decide⟩

def declaredTwice : Request where
  headers := ⟨[(.of "content-length",.of "3"),(.of "content-length",.of "100")]⟩
  body := Bytes.ofString "abc"

theorem second_length_ignored :
    (∃ value ∈ declaredTwice.headers.values (.of "content-length"),
      ∃ length, ReadsAs value length ∧ ({ limit := 10 } : BodyLimit).Exceeds length) ∧
    ({ limit := 10 } : BodyLimit).run echo declaredTwice [] =
        (pure ({ status := 200,body := Bytes.ofString "abc" },[Bytes.ofString "abc"]) : Id _) ∧
    ({ limit := 10 } : BodyLimit).run echo declaredTwice [] ≠
        (pure (({ limit := 10 } : BodyLimit).rejection,[]) : Id _) := by
  have declared : declaredLength? declaredTwice = some 3 := by decide
  have received : Received { limit := 10 } declaredTwice :=
    received_of_declared declared (by decide) (by decide)
  have run := run_received received echo []
  have second : ReadsAs (.of "100") 100 := readsAs_iff.mpr (by decide)
  refine ⟨⟨_,by decide,100,second,by decide,by decide⟩,run,?_⟩
  rw [run]
  intro same
  exact absurd (congrArg Prod.snd same) (by decide)

end HttpLayers.BodyLimit
