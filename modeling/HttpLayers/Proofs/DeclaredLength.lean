import HttpLayers.Proofs.Address.Alphabet
import HttpLayers.Proofs.BodyLimit
import HttpLayers.Proofs.Recorded

-- A length is read into 64 bits. A number that needs more is read as no length at all, so the largest
-- of them are the ones that are not refused before the service is called.

namespace HttpLayers.BodyLimit

open Http FieldValue Text Integer

-- The first length of the request is this decimal number, of any size and with any zeros in front.
structure Written (request : Request) (digits : List Char) (n : Nat) : Prop where
  first : (request.headers.get? (.of "content-length")).map (·.bytes) =
    some (Bytes.ofString (String.ofList digits))
  present : digits ≠ []
  decimal : ∀ c ∈ digits, c.isDigit = true
  value : Nat.ofDigitChars 10 digits 0 = n

variable {policy : BodyLimit} {request : Request} {digits : List Char} {n : Nat}

theorem Written.declares_iff (written : Written request digits n) {length : Nat} :
    (∃ value, Declares request value length) ↔ length = n ∧ n < UInt64.size := by
  have visible : ∀ c ∈ (String.ofList digits).toList, 32 ≤ c.toNat ∧ c.toNat ≤ 126 := by
    intro c member
    rw [String.toList_ofList] at member
    have range := (Net.IsAddressChar.of_digit (written.decimal c member)).visible
    omega
  have chars : Bytes.toChars (Bytes.ofString (String.ofList digits)) = digits := by
    rw [Bytes.toChars_ofString fun c member => by have := visible c member; omega,
      String.toList_ofList]
  have numeral : Numeral digits n := written.value ▸ .plain written.present written.decimal
  obtain ⟨value,first,bytes⟩ := Option.map_eq_some_iff.mp written.first
  constructor
  · intro declared
    obtain ⟨again,firstAlso,_,also,fits⟩ := declared
    cases Option.some.inj (first.symm.trans firstAlso)
    rw [bytes,chars] at also
    have same := also.unique numeral
    exact ⟨same,same ▸ fits⟩
  · intro read
    obtain ⟨rfl,fits⟩ := read
    refine ⟨value,first,?_,?_,fits⟩
    · rw [bytes]
      exact ofString_printable visible
    · rw [bytes,chars]
      exact numeral

theorem Written.tooMuch_iff (written : Written request digits n) (limited : 0 ≤ policy.limit) :
    policy.DeclaresTooMuch request ↔ policy.limit < n ∧ n < UInt64.size := by
  constructor
  · intro declared
    obtain ⟨value,length,declares,_,exceeds⟩ := declared
    obtain ⟨rfl,fits⟩ := written.declares_iff.mp ⟨value,declares⟩
    exact ⟨exceeds,fits⟩
  · intro large
    obtain ⟨value,declares⟩ := written.declares_iff.mpr ⟨rfl,large.2⟩
    exact ⟨value,n,declares,limited,large.1⟩

variable {m : Type → Type} [Monad m]

-- What the layer answers, and the requests that came through to the service.
def traced (policy : BodyLimit) (inner : Service m) (request : Request) (seen : List Request) :
    m (Response × List Request) :=
  (policy.layer (recorded inner) request).run seen

theorem traced_refused (refused : policy.DeclaresTooMuch request) (inner : Service m)
    (seen : List Request) :
    policy.traced inner request seen = pure (policy.rejection,seen) := by
  rw [traced,layer_refused refused]
  exact run_pure _ seen

variable [LawfulMonad m]

theorem traced_passed (passed : ¬policy.DeclaresTooMuch request) (inner : Service m)
    (seen : List Request) :
    policy.traced inner request seen =
      (fun response => (if response.status = 413 then policy.rejection else response,
        seen ++ [{ request with readCap := policy.readCap }])) <$>
        inner { request with readCap := policy.readCap } := by
  rw [traced,layer_passed passed,StateT.run_map,run_recorded,Functor.map_map]

theorem declared_number_decides (inner : Service m) (seen : List Request)
    (limited : 0 ≤ policy.limit) (written : Written request digits n) :
    (policy.limit < n ∧ n < UInt64.size →
      policy.traced inner request seen = pure (policy.rejection,seen)) ∧
    (n ≤ policy.limit ∨ UInt64.size ≤ n →
      policy.traced inner request seen =
        (fun response => (if response.status = 413 then policy.rejection else response,
          seen ++ [{ request with readCap := policy.readCap }])) <$>
          inner { request with readCap := policy.readCap }) := by
  constructor
  · intro large
    exact traced_refused ((written.tooMuch_iff limited).mpr large) inner seen
  · intro passes
    refine traced_passed ?_ inner seen
    rw [written.tooMuch_iff limited]
    omega

def declaring (length : FieldValue) : Request where
  headers := ⟨[(.of "content-length",length)]⟩
  body := Bytes.ofString "abc"

theorem written_zeros : Written (declaring (.of "0000000000000000000011"))
    "0000000000000000000011".toList 11 where
  first := by decide
  present := by decide
  decimal := List.all_eq_true.mp (by decide)
  value := by decide

-- Zeros in front make no number larger.
theorem padded_number_refused :
    Written (declaring (.of "0000000000000000000011")) "0000000000000000000011".toList 11 ∧
    ({ limit := 10 } : BodyLimit).traced (readingBody echo)
        (declaring (.of "0000000000000000000011")) [] =
      (pure (({ limit := 10 } : BodyLimit).rejection,[]) : Id _) := by
  have decided := declared_number_decides (readingBody echo) []
    (show 0 ≤ ({ limit := 10 } : BodyLimit).limit by decide) written_zeros
  exact ⟨written_zeros,decided.1 ⟨by decide,by decide⟩⟩

-- The least number that 64 bits do not hold.
theorem written_past : Written (declaring (.of "18446744073709551616")) "18446744073709551616".toList
    18446744073709551616 where
  first := by decide
  present := by decide
  decimal := List.all_eq_true.mp (by decide)
  value := by decide

theorem number_past_word_admitted :
    Written (declaring (.of "18446744073709551616")) "18446744073709551616".toList
      18446744073709551616 ∧
    ({ limit := 10 } : BodyLimit).limit < (18446744073709551616 : Nat) ∧
    ({ limit := 10 } : BodyLimit).traced (readingBody echo)
        (declaring (.of "18446744073709551616")) [] =
      (pure ({ status := 200,body := Bytes.ofString "abc" },
        [{ declaring (.of "18446744073709551616") with readCap := .atMost 10 }]) : Id _) := by
  refine ⟨written_past,by decide,?_⟩
  refine traced_passed ?_ (readingBody echo) []
  rw [written_past.tooMuch_iff (by decide)]
  decide

end HttpLayers.BodyLimit
