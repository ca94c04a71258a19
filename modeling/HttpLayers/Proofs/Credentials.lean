import HttpLayers.Policy.BasicAuth
import HttpLayers.Proofs.Base64
import HttpLayers.Proofs.FieldValue
import HttpLayers.Proofs.Trim

namespace HttpLayers.BasicAuth

open Http Text FieldValue

-- Of the white space in Unicode a printable value can hold two characters only.
theorem blank_of_printable {b : UInt8} (printable : IsPrintable b)
    (blank : isBlank (Char.ofNat b.toNat) = true) :
    Char.ofNat b.toNat = ' ' ∨ Char.ofNat b.toNat = '\t' := by
  have finite : ∀ n < 128, isBlank (Char.ofNat n) = true → n = 9 ∨ (32 ≤ n ∧ n ≤ 126) →
      Char.ofNat n = ' ' ∨ Char.ofNat n = '\t' := by decide
  refine finite b.toNat printable.ascii blank ?_
  rcases printable with rfl | range
  · exact .inl rfl
  · exact .inr range

def token (user password : String) : List Char :=
  Base64.encode (Bytes.ofString (user ++ ":" ++ password))

theorem token_bare (user password : String) : Bare isBlank (token user password) :=
  .of_all fun c member => not_blank_of_visible (Base64.encode_visible _ c member)

theorem trim_gap_token {gap : List Char} (blank : ∀ c ∈ gap, c = ' ' ∨ c = '\t')
    (user password : String) : trim (gap ++ token user password) = token user password := by
  have whole : gap ++ token user password = gap ++ token user password ++ [] :=
    (List.append_nil _).symm
  exact strip_eq_iff.mpr ⟨gap,[],whole,IsGap.blank blank,List.forall_mem_nil _,
    token_bare user password⟩

theorem space_not_mem_scheme {scheme : List Char}
    (named : sameFolded scheme "basic".toList = true) : ' ' ∉ scheme := by
  intro member
  have folded : lower scheme = lower "basic".toList := sameFolded_iff.mp named
  have present : ' '.toLower ∈ lower scheme := List.mem_map_of_mem member
  rw [folded] at present
  revert present
  decide

-- A header text that spells credentials: the scheme in any case, one space, more white space or
-- none, and the token.
structure Spells (text : List Char) (user password : String) : Prop where
  colonFree : ':' ∉ user.toList
  form : ∃ scheme gap, trim text = scheme ++ ' ' :: gap ++ token user password ∧
    sameFolded scheme "basic".toList = true ∧ ∀ c ∈ gap, c = ' ' ∨ c = '\t'

theorem split_decoded {decoded : String} {left right : List Char} :
    splitOnce ':' decoded.toList = some (left,right) ↔
      decoded = String.ofList left ++ ":" ++ String.ofList right ∧ ':' ∉ left := by
  rw [splitOnce_eq_some_iff]
  refine and_congr_left fun _ => ?_
  rw [← String.toList_inj]
  simp

theorem credentials?_parts {request : Request} {user password : String} :
    credentials? request = some (user,password) ↔
      ∃ text scheme encoded, request.headers.text? (.of "authorization") = some text ∧
        trim text = scheme ++ ' ' :: encoded ∧ ' ' ∉ scheme ∧
        sameFolded scheme "basic".toList = true ∧ trim encoded = token user password ∧
        ':' ∉ user.toList := by
  constructor
  · intro read
    obtain ⟨text,found,read⟩ := Option.bind_eq_some_iff.mp read
    obtain ⟨⟨scheme,encoded⟩,cut,read⟩ := Option.bind_eq_some_iff.mp read
    obtain ⟨_,named,read⟩ := Option.bind_eq_some_iff.mp read
    obtain ⟨bytes,readBytes,read⟩ := Option.bind_eq_some_iff.mp read
    obtain ⟨decoded,readText,read⟩ := Option.bind_eq_some_iff.mp read
    obtain ⟨⟨left,right⟩,split,last⟩ := Option.bind_eq_some_iff.mp read
    obtain ⟨whole,spaceFree⟩ := splitOnce_eq_some_iff.mp cut
    obtain ⟨rfl,colonFree⟩ := split_decoded.mp split
    cases Option.some.inj last
    change (if sameFolded scheme "basic".toList = true then some () else none) = some _ at named
    split at named
    · rename_i folded
      refine ⟨text,scheme,encoded,found,whole,spaceFree,folded,?_,by simpa using colonFree⟩
      rw [Base64.decode_eq_some_iff.mp readBytes,Bytes.toString?_eq_some_iff.mp readText]
      rfl
    · cases named
  · intro parts
    obtain ⟨text,scheme,encoded,found,whole,spaceFree,named,inner,colonFree⟩ := parts
    have split : splitOnce ':' (user ++ ":" ++ password).toList =
        some (user.toList,password.toList) :=
      split_decoded.mpr ⟨by simp,colonFree⟩
    refine Option.bind_eq_some_iff.mpr ⟨text,found,?_⟩
    refine Option.bind_eq_some_iff.mpr ⟨_,splitOnce_eq_some_iff.mpr ⟨whole,spaceFree⟩,?_⟩
    refine Option.bind_eq_some_iff.mpr ⟨(),if_pos named,?_⟩
    refine Option.bind_eq_some_iff.mpr ⟨_,Base64.decode_eq_some_iff.mpr inner,?_⟩
    refine Option.bind_eq_some_iff.mpr ⟨_,Bytes.toString?_ofString _,?_⟩
    refine Option.bind_eq_some_iff.mpr ⟨_,split,?_⟩
    change some (String.ofList user.toList,String.ofList password.toList) = some (user,password)
    rw [String.ofList_toList,String.ofList_toList]

-- The inner trimming finds the token only where the outer one left nothing behind it.
theorem credentials?_spells {request : Request} {user password : String} :
    credentials? request = some (user,password) ↔
      ∃ value, request.headers.get? (.of "authorization") = some value ∧
        (∀ b ∈ value.bytes, IsPrintable b) ∧ Spells value.bytes.toChars user password := by
  rw [credentials?_parts]
  constructor
  · intro parts
    obtain ⟨text,scheme,encoded,found,whole,_,named,inner,colonFree⟩ := parts
    obtain ⟨value,first,printable,rfl⟩ := Headers.text?_exact.mp found
    refine ⟨value,first,printable,colonFree,?_⟩
    have bare : Bare isBlank (scheme ++ ' ' :: encoded) := whole ▸ strip_bare value.bytes.toChars
    have ends : ∀ c, encoded.getLast? = some c → isBlank c = false := by
      intro c last
      exact bare.last c (by rw [List.getLast?_append,List.getLast?_cons,last]; rfl)
    obtain ⟨gap,cut,blank⟩ := strip_front ends
    change encoded = gap ++ trim encoded at cut
    rw [inner] at cut
    refine ⟨scheme,gap,by rw [whole,cut]; simp,named,?_⟩
    intro c member
    have present : c ∈ trim value.bytes.toChars := by rw [whole,cut]; simp [member]
    obtain ⟨b,inside,rfl⟩ := List.mem_map.mp (mem_of_mem_strip present)
    exact blank_of_printable (printable b inside) (blank _ member)
  · intro written
    obtain ⟨value,first,printable,colonFree,scheme,gap,whole,named,blank⟩ := written
    have read := Headers.text?_exact.mpr ⟨value,first,printable,rfl⟩
    refine ⟨value.bytes.toChars,scheme,gap ++ token user password,read,?_,
      space_not_mem_scheme named,named,trim_gap_token blank user password,colonFree⟩
    rw [whole]
    simp

def header (user password : String) : String :=
  "Basic " ++ String.ofList (token user password)

theorem header_toList (user password : String) :
    (header user password).toList = "Basic".toList ++ ' ' :: token user password := by
  simp [header]

theorem token_ne_nil (user password : String) : token user password ≠ [] := by
  refine Base64.encode_ne_nil fun empty => ?_
  have bytes : Bytes.ofString ":" = [58] := by decide
  simp [Bytes.ofString_append,bytes] at empty

theorem header_visible (user password : String) :
    ∀ c ∈ (header user password).toList, 32 ≤ c.toNat ∧ c.toNat ≤ 126 := by
  intro c member
  rw [header_toList] at member
  rcases List.mem_append.mp member with scheme | rest
  · have visible : "Basic".toList.all (fun c => 32 ≤ c.toNat && c.toNat ≤ 126) = true := by decide
    simpa using List.all_eq_true.mp visible c scheme
  · rcases List.mem_cons.mp rest with rfl | inside
    · decide
    · have visible := Base64.encode_visible _ c inside
      omega

theorem header_bare (user password : String) : Bare isBlank (header user password).toList := by
  rw [header_toList]
  constructor
  · intro c first
    cases Option.some.inj first
    decide
  · intro c last
    have bare := token_bare user password
    refine bare.last c ?_
    cases ends : (token user password).getLast? with
    | none => exact absurd (List.getLast?_eq_none_iff.mp ends) (token_ne_nil user password)
    | some d =>
        rw [List.getLast?_append,List.getLast?_cons,ends] at last
        exact last

theorem spells_header {user password : String} (colonFree : ':' ∉ user.toList) :
    Spells (header user password).toList user password := by
  refine ⟨colonFree,"Basic".toList,[],?_,by decide,by simp⟩
  have trimmed : trim (header user password).toList = (header user password).toList :=
    strip_eq_iff.mpr ⟨[],[],by simp,by simp,by simp,header_bare user password⟩
  rw [trimmed,header_toList]
  simp

theorem credentials?_header {request : Request} {user password : String}
    (sent : (request.headers.get? (.of "authorization")).map (·.bytes) =
      some (Bytes.ofString (header user password)))
    (colonFree : ':' ∉ user.toList) : credentials? request = some (user,password) := by
  have visible := header_visible user password
  have ascii : ∀ c ∈ (header user password).toList, c.toNat < 128 := fun c member => by
    have := visible c member; omega
  obtain ⟨value,first,written⟩ := Option.map_eq_some_iff.mp sent
  refine credentials?_spells.mpr ⟨value,first,?_,?_⟩
  · rw [written]
    exact ofString_printable visible
  · rw [written,Bytes.toChars_ofString ascii]
    exact spells_header colonFree

-- What is read was written in the one canonical form, and what is written so is read, whatever the
-- password holds.
theorem credentials_exact (request : Request) (user password : String) :
    (credentials? request = some (user,password) ↔
      ∃ value scheme gap, request.headers.get? (.of "authorization") = some value ∧
        (∀ b ∈ value.bytes, b = 9 ∨ (32 ≤ b.toNat ∧ b.toNat ≤ 126)) ∧
        trim value.bytes.toChars = scheme ++ ' ' :: gap ++
          Base64.encode (Bytes.ofString (user ++ ":" ++ password)) ∧
        sameFolded scheme "basic".toList = true ∧ (∀ c ∈ gap, c = ' ' ∨ c = '\t') ∧
        ':' ∉ user.toList) ∧
    (':' ∉ user.toList →
      (request.headers.get? (.of "authorization")).map (·.bytes) = some (Bytes.ofString
        ("Basic " ++ String.ofList (Base64.encode (Bytes.ofString (user ++ ":" ++ password))))) →
      credentials? request = some (user,password)) := by
  refine ⟨credentials?_spells.trans ?_,fun colonFree sent => credentials?_header sent colonFree⟩
  constructor
  · intro written
    obtain ⟨value,first,printable,colonFree,scheme,gap,whole,named,blank⟩ := written
    exact ⟨value,scheme,gap,first,printable,whole,named,blank,colonFree⟩
  · intro written
    obtain ⟨value,scheme,gap,first,printable,whole,named,blank,colonFree⟩ := written
    exact ⟨value,first,printable,colonFree,scheme,gap,whole,named,blank⟩

end HttpLayers.BasicAuth
