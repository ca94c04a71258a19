import HttpLayers.Proofs.Precedence
import HttpLayers.Proofs.TransportPolicy

-- Six texts at most, under names that are legal however the policy is set. Only a value can be one that
-- no header carries, and such a pair is left out without a word.

namespace HttpLayers.SecurityHeaders

open Http Text

variable {policy : SecurityHeaders} {pair : String × String} {name value : String}

-- In the order in which they are sent. Of the two for the content one is sent at most.
def names : List String :=
  ["X-XSS-Protection","X-Content-Type-Options","X-Frame-Options","Strict-Transport-Security",
   "Content-Security-Policy","Content-Security-Policy-Report-Only","Referrer-Policy"]

inductive Sends (policy : SecurityHeaders) : String → String → Prop where
  | filter (present : policy.xssProtection ≠ "") :
      Sends policy "X-XSS-Protection" policy.xssProtection
  | sniffing (present : policy.contentTypeNosniff ≠ "") :
      Sends policy "X-Content-Type-Options" policy.contentTypeNosniff
  | framing (present : policy.xFrameOptions ≠ "") :
      Sends policy "X-Frame-Options" policy.xFrameOptions
  | transport {value : String} (lasting : 0 < policy.hstsMaxAge)
      (told : policy.transportSecurity? = some value) :
      Sends policy "Strict-Transport-Security" value
  | enforced (enforces : policy.cspReportOnly = false) (present : policy.contentSecurityPolicy ≠ "") :
      Sends policy "Content-Security-Policy" policy.contentSecurityPolicy
  | reported (reports : policy.cspReportOnly = true) (present : policy.contentSecurityPolicy ≠ "") :
      Sends policy "Content-Security-Policy-Report-Only" policy.contentSecurityPolicy
  | referrer (present : policy.referrerPolicy ≠ "") :
      Sends policy "Referrer-Policy" policy.referrerPolicy

theorem mem_pairs : pair ∈ policy.pairs ↔ pair ∈ policy.allPairs ∧ pair.2 ≠ "" := by
  rw [pairs,List.mem_filter,Bool.not_eq_true',String.isEmpty_eq_false_iff]

theorem transportSecurity?_present (told : policy.transportSecurity? = some value) : value ≠ "" := by
  rintro rfl
  have read := readTransport?_of_enabled told
  cases read

theorem mem_pairs_iff : (name,value) ∈ policy.pairs ↔ Sends policy name value := by
  rw [mem_pairs]
  constructor
  · intro listed
    obtain ⟨member,present⟩ := listed
    simp only [allPairs,List.mem_cons,Prod.mk.injEq,List.not_mem_nil,or_false] at member
    rcases member with ⟨rfl,rfl⟩ | ⟨rfl,rfl⟩ | ⟨rfl,rfl⟩ | ⟨rfl,rfl⟩ | ⟨rfl,rfl⟩ | ⟨rfl,rfl⟩
    · exact .filter present
    · exact .sniffing present
    · exact .framing present
    · cases told : policy.transportSecurity? with
      | none => simp [told] at present
      | some value =>
          exact .transport (transportSecurity?_isSome_iff.mp (by rw [told]; rfl)) told
    · cases mode : policy.cspReportOnly with
      | false => exact .enforced mode present
      | true => exact .reported mode present
    · exact .referrer present
  · intro sends
    cases sends with
    | filter present | sniffing present | framing present | referrer present =>
        exact ⟨by simp [allPairs],present⟩
    | transport _ told => exact ⟨by simp [allPairs,told],transportSecurity?_present told⟩
    | enforced mode present | reported mode present => exact ⟨by simp [allPairs,mode],present⟩

theorem pairs_ordered (policy : SecurityHeaders) : (policy.pairs.map (·.1)).Sublist names := by
  have all : (policy.allPairs.map (·.1)).Sublist names := by
    unfold allPairs
    cases policy.cspReportOnly <;> simp only [List.map_cons,List.map_nil] <;> decide
  exact (List.filter_sublist.map _).trans all

theorem pairs_apart (policy : SecurityHeaders) : Apart policy.pairs := by
  have apart : (names.map fun name => lower name.toList).Nodup := by decide
  have kept := apart.sublist ((pairs_ordered policy).map _)
  rw [List.map_map] at kept
  exact kept

theorem pairs_exclusive {enforced reported : String}
    (one : ("Content-Security-Policy",enforced) ∈ policy.pairs)
    (other : ("Content-Security-Policy-Report-Only",reported) ∈ policy.pairs) : False := by
  have named := List.mem_map_of_mem (f := (·.1)) (mem_pairs.mp one).1
  have alsoNamed := List.mem_map_of_mem (f := (·.1)) (mem_pairs.mp other).1
  simp only [allPairs,List.map_cons,List.map_nil] at named alsoNamed
  cases mode : policy.cspReportOnly <;> rw [mode] at named alsoNamed
  · exact absurd alsoNamed (by decide)
  · exact absurd named (by decide)

theorem pair_name (listed : pair ∈ policy.pairs) :
    ∃ name, FieldName.ofString? pair.1 = some name ∧
      name.text = String.ofList (lower pair.1.toList) := by
  have legal : ∀ name ∈ names, isToken name.toList = true ∧ name.toList.length ≤ 65535 := by decide
  obtain ⟨token,short⟩ := legal _ ((pairs_ordered policy).subset (List.mem_map_of_mem listed))
  exact ⟨_,dif_pos ⟨token,short⟩,rfl⟩

def written (pair : String × String) : String × Bytes :=
  (String.ofList (lower pair.1.toList),Bytes.ofString pair.2)

theorem field?_pair (listed : pair ∈ policy.pairs) :
    (HeaderPatch.field? pair.1 pair.2).map (fun field => (field.1.text,field.2.bytes)) =
      if FieldValue.isLegal (Bytes.ofString pair.2) then some (written pair) else none := by
  obtain ⟨name,read,lowered⟩ := pair_name listed
  rw [HeaderPatch.field?,read,written,← lowered,FieldValue.ofString?,FieldValue.ofBytes?]
  split <;> rfl

theorem set_written (policy : SecurityHeaders) : (Headers.mk policy.patch.set).written =
    (policy.pairs.filter fun pair => FieldValue.isLegal (Bytes.ofString pair.2)).map written := by
  rw [← List.filterMap_eq_map,List.filterMap_filter]
  refine (List.map_filterMap ..).trans ?_
  exact List.filterMap_congr fun _ listed => field?_pair listed

example : ({ contentSecurityPolicy := "one\ntwo" } : SecurityHeaders).patch.set.map (·.1) =
    [.of "x-xss-protection",.of "x-content-type-options",.of "x-frame-options"] := by
  decide

theorem pairs_exact (policy : SecurityHeaders) :
    (policy.transportSecurity?.isSome = true ↔ 0 < policy.hstsMaxAge) ∧
    (∀ value, policy.transportSecurity? = some value →
      readTransport? value.toList = some policy.transport) ∧
    (∀ other : SecurityHeaders, 0 < policy.hstsMaxAge → policy.transport ≠ other.transport →
      policy.transportSecurity? ≠ other.transportSecurity?) ∧
    (∀ name value, (name,value) ∈ policy.pairs ↔ policy.Sends name value) ∧
    (∀ pair ∈ policy.pairs, pair.2 ≠ "") ∧
    (policy.pairs.map (·.1)).Sublist names ∧
    Apart policy.pairs ∧
    (∀ enforced reported, ¬(("Content-Security-Policy",enforced) ∈ policy.pairs ∧
      ("Content-Security-Policy-Report-Only",reported) ∈ policy.pairs)) ∧
    policy.patch.removed = [] ∧
    (Headers.mk policy.patch.set).written = (policy.pairs.filter fun pair =>
      FieldValue.isLegal (Bytes.ofString pair.2)).map written ∧
    policy.patch.overwrite = false := by
  refine ⟨transportSecurity?_isSome_iff,fun _ => readTransport?_of_enabled,?apart,
    fun _ _ => mem_pairs_iff,?present,pairs_ordered policy,pairs_apart policy,?exclusive,
    rfl,set_written policy,rfl⟩
  case apart => exact fun _ positive => mt (transport_of_same positive)
  case present => exact fun _ listed => (mem_pairs.mp listed).2
  case exclusive => exact fun _ _ both => pairs_exclusive both.1 both.2

end HttpLayers.SecurityHeaders
