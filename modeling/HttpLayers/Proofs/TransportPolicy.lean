import HttpLayers.Policy.SecurityHeaders
import HttpLayers.Proofs.Address.Digits
import HttpLayers.Proofs.Parts
import HttpLayers.Proofs.Trim

-- The value tells for how long, whether for the hosts below too, and whether for the lists that browsers
-- bring along. Who reads its directives knows all three again, so no two settings share a value.

namespace HttpLayers.SecurityHeaders

open Net.Reader Text

variable {policy other : SecurityHeaders} {value : String}

structure Transport where
  maxAge : Int
  excludesSubdomains : Bool
  preloads : Bool
  deriving DecidableEq, Repr

def transport (policy : SecurityHeaders) : Transport where
  maxAge := policy.hstsMaxAge
  excludesSubdomains := policy.hstsExcludeSubdomains
  preloads := policy.hstsPreload

def directives (s : List Char) : List (List Char) :=
  (s.splitOn ';').map trim

def isMaxAge (name digits : List Char) : Bool :=
  sameFolded name "max-age".toList && !digits.isEmpty && digits.all Char.isDigit

def maxAge? (directive : List Char) : Option Nat :=
  (splitOnce '=' directive).bind fun cut =>
    if isMaxAge cut.1 cut.2 then some (Nat.ofDigitChars 10 cut.2 0) else none

-- The order of the directives does not count, nor does their case.
def readTransport? (s : List Char) : Option Transport :=
  ((directives s).findSome? maxAge?).map fun age =>
    { maxAge := age
      excludesSubdomains :=
        !(directives s).any fun directive => sameFolded directive "includeSubdomains".toList
      preloads := (directives s).any fun directive => sameFolded directive "preload".toList }

theorem transportSecurity?_isSome_iff :
    policy.transportSecurity?.isSome = true ↔ 0 < policy.hstsMaxAge := by
  unfold transportSecurity?
  split
  · rename_i expired
    exact ⟨nofun,fun positive => absurd expired (Int.not_le.mpr positive)⟩
  · rename_i lasting
    exact ⟨fun _ => Int.not_le.mp lasting,fun _ => rfl⟩

def agePart (age : Nat) : List Char :=
  "max-age=".toList ++ Nat.toDigits 10 age

theorem agePart_visible (age : Nat) : ∀ c ∈ agePart age, 32 < c.toNat ∧ c.toNat < 127 ∧ c ≠ ';' := by
  refine List.forall_mem_append.mpr ⟨by simp,fun c member => ?_⟩
  obtain ⟨least,most⟩ := Char.isDigit_iff_toNat.mp (isDigit_of_mem_toDigits c member)
  have small : c.toNat ≤ 57 := most
  have large : 48 ≤ c.toNat := least
  refine ⟨by omega,by omega,?_⟩
  rintro rfl
  exact absurd small (by decide)

theorem maxAge?_of_cut {directive name digits : List Char}
    (cut : splitOnce '=' directive = some (name,digits)) (accepted : isMaxAge name digits = true) :
    maxAge? directive = some (Nat.ofDigitChars 10 digits 0) := by
  rw [maxAge?,cut,Option.bind_some,if_pos accepted]

theorem maxAge?_agePart (age : Nat) : maxAge? (agePart age) = some age := by
  have cut : splitOnce '=' (agePart age) = some ("max-age".toList,Nat.toDigits 10 age) :=
    splitOnce_eq_some_iff.mpr ⟨rfl,by decide⟩
  have isDecimal := isDecimal_toDigits age
  have accepted : isMaxAge "max-age".toList (Nat.toDigits 10 age) = true := by
    simpa [isMaxAge,sameFolded_iff,isDecimal.present] using isDecimal.decimal
  rw [maxAge?_of_cut cut accepted,isDecimal.value]

theorem transport_text {age : Nat} (lasting : policy.hstsMaxAge = age)
    (enabled : policy.transportSecurity? = some value) : value.toList =
      agePart age ++ (if policy.hstsExcludeSubdomains then [] else "; includeSubdomains".toList) ++
        if policy.hstsPreload then "; preload".toList else [] := by
  unfold transportSecurity? at enabled
  split at enabled
  · cases enabled
  · have shown : toString (age : Int) = age.repr := rfl
    obtain rfl := Option.some.inj enabled
    rw [lasting,shown]
    simp only [String.toList_append,Nat.toList_repr]
    unfold agePart
    generalize Nat.toDigits 10 age = digits
    cases policy.hstsExcludeSubdomains <;> cases policy.hstsPreload <;> rfl

-- Each part but the first stands behind a space.
theorem parted_transport {age : Nat} (lasting : policy.hstsMaxAge = age)
    (enabled : policy.transportSecurity? = some value) : Parted ';'
      (agePart age :: ((if policy.hstsExcludeSubdomains then [] else [" includeSubdomains".toList]) ++
        if policy.hstsPreload then [" preload".toList] else [])) value.toList := by
  refine ⟨?_,List.cons_ne_nil _ _,?_⟩
  · rw [transport_text lasting enabled]
    generalize agePart age = front
    cases policy.hstsExcludeSubdomains <;> cases policy.hstsPreload <;>
      simp [List.intercalate_cons_cons]
  · refine List.forall_mem_cons.mpr ⟨fun mark => (agePart_visible _ _ mark).2.2 rfl,?_⟩
    cases policy.hstsExcludeSubdomains <;> cases policy.hstsPreload <;> decide

theorem directives_transport {age : Nat} (lasting : policy.hstsMaxAge = age)
    (enabled : policy.transportSecurity? = some value) : directives value.toList =
      agePart age :: ((if policy.hstsExcludeSubdomains then [] else ["includeSubdomains".toList]) ++
        if policy.hstsPreload then ["preload".toList] else []) := by
  have bare : trim (agePart age) = agePart age := strip_of_bare <| .of_all fun c member =>
    not_blank_of_visible ⟨(agePart_visible age c member).1,(agePart_visible age c member).2.1⟩
  rw [directives,splitOn_eq_iff.mpr (parted_transport lasting enabled),List.map_cons,bare]
  cases policy.hstsExcludeSubdomains <;> cases policy.hstsPreload <;> rfl

theorem readTransport?_of_enabled (enabled : policy.transportSecurity? = some value) :
    readTransport? value.toList = some policy.transport := by
  have positive : 0 < policy.hstsMaxAge :=
    transportSecurity?_isSome_iff.mp (by rw [enabled]; rfl)
  obtain ⟨age,lasting⟩ := Int.eq_ofNat_of_zero_le (Int.le_of_lt positive)
  rw [readTransport?,directives_transport lasting enabled,List.findSome?_cons,maxAge?_agePart,transport,
    lasting]
  cases policy.hstsExcludeSubdomains <;> cases policy.hstsPreload <;> rfl

theorem transport_of_same (positive : 0 < policy.hstsMaxAge)
    (same : policy.transportSecurity? = other.transportSecurity?) :
    policy.transport = other.transport := by
  obtain ⟨value,enabled⟩ := Option.isSome_iff_exists.mp (transportSecurity?_isSome_iff.mpr positive)
  have one := readTransport?_of_enabled enabled
  rw [readTransport?_of_enabled (same ▸ enabled)] at one
  exact (Option.some.inj one).symm

end HttpLayers.SecurityHeaders
