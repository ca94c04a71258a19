import HttpLayers.Policy.RealIp

-- A list trusts the union of what its readable entries contain and nobody else, so it fails closed:
-- neither an entry nor an address that cannot be read ever adds trust.

namespace HttpLayers.RealIp

open Net Text

def Covers (entry : String) (address : IpAddress) : Prop :=
  ∃ range, Cidr.ofText? entry.toList = some range ∧ range.contains address = true

-- Two ways to be trusted and no third. Only the lack of a list trusts what is no address at all.
inductive Trusts (policy : RealIp) (ip : String) : Prop where
  | everyone (unlisted : policy.trustedProxies = none) : Trusts policy ip
  | covered {entries : List String} {entry : String} {address : IpAddress}
      (configured : policy.trustedProxies = some entries)
      (read : IpAddress.ofText? (trim ip.toList) = some address)
      (listed : entry ∈ entries) (covers : Covers entry address) : Trusts policy ip

theorem ranges_cover {entries : List String} {address : IpAddress} :
    ((entries.filterMap fun entry => Cidr.ofText? entry.toList).any
        fun range => range.contains address) = true ↔
      ∃ entry ∈ entries, Covers entry address := by
  rw [List.any_eq_true]
  constructor
  · intro found
    obtain ⟨range,kept,contained⟩ := found
    obtain ⟨entry,listed,read⟩ := List.mem_filterMap.mp kept
    exact ⟨entry,listed,range,read,contained⟩
  · intro found
    obtain ⟨entry,listed,range,read,contained⟩ := found
    exact ⟨range,List.mem_filterMap.mpr ⟨entry,listed,read⟩,contained⟩

theorem trusts_exact {policy : RealIp} {ip : String} :
    policy.trusts ip = true ↔ Trusts policy ip := by
  unfold trusts trusted
  cases configured : policy.trustedProxies with
  | none => exact ⟨fun _ => .everyone configured,fun _ => rfl⟩
  | some entries =>
      simp only [Trusted.trusts]
      cases read : IpAddress.ofText? (trim ip.toList) with
      | none =>
          constructor
          · intro accepted
            cases accepted
          · intro trusted
            cases trusted with
            | everyone unlisted => rw [configured] at unlisted; cases unlisted
            | covered _ also => rw [read] at also; cases also
      | some address =>
          refine ranges_cover.trans ⟨?_,?_⟩
          · intro found
            obtain ⟨entry,listed,covers⟩ := found
            exact .covered configured read listed covers
          · intro trusted
            cases trusted with
            | everyone unlisted => rw [configured] at unlisted; cases unlisted
            | covered other also listed covers =>
                cases Option.some.inj (configured.symm.trans other)
                cases Option.some.inj (read.symm.trans also)
                exact ⟨_,listed,covers⟩

instance (policy : RealIp) (ip : String) : Decidable (Trusts policy ip) :=
  decidable_of_iff _ trusts_exact

example : Trusts { trustedProxies := some ["garbage","10.0.0.0/8"] } " 10.1.2.3" := by
  decide

def listing (policy : RealIp) (entries : List String) : RealIp :=
  { policy with trustedProxies := some entries }

theorem listing_trusts {policy : RealIp} {entries : List String} {ip : String} :
    (policy.listing entries).trusts ip = true ↔
      ∃ address, IpAddress.ofText? (trim ip.toList) = some address ∧
        ∃ entry ∈ entries, Covers entry address := by
  rw [trusts_exact]
  constructor
  · intro trusted
    cases trusted with
    | everyone unlisted => cases unlisted
    | covered configured read listed covers =>
        cases Option.some.inj configured
        exact ⟨_,read,_,listed,covers⟩
  · intro trusted
    obtain ⟨address,read,entry,listed,covers⟩ := trusted
    exact .covered rfl read listed covers

theorem listing_trusts_mono {policy : RealIp} {one other : List String}
    (kept : ∀ entry ∈ one, (Cidr.ofText? entry.toList).isSome = true → entry ∈ other) {ip : String}
    (trusted : (policy.listing one).trusts ip = true) : (policy.listing other).trusts ip = true := by
  obtain ⟨address,read,entry,listed,covers⟩ := listing_trusts.mp trusted
  obtain ⟨range,readable,contained⟩ := covers
  have still : entry ∈ other := kept entry listed (by rw [readable]; rfl)
  exact listing_trusts.mpr ⟨address,read,entry,still,range,readable,contained⟩

-- Entries count through what they cover, so the readable ones alone decide, in any order and however
-- often they stand in the list.
theorem listing_trusts_congr {policy : RealIp} {one other : List String}
    (same : ∀ entry, (Cidr.ofText? entry.toList).isSome = true → (entry ∈ one ↔ entry ∈ other))
    (ip : String) : (policy.listing one).trusts ip = (policy.listing other).trusts ip := by
  rw [Bool.eq_iff_iff]
  constructor
  · exact listing_trusts_mono fun entry listed readable => (same entry readable).mp listed
  · exact listing_trusts_mono fun entry listed readable => (same entry readable).mpr listed

theorem listing_trusts_append (policy : RealIp) (one other : List String) (ip : String) :
    (policy.listing (one ++ other)).trusts ip =
      ((policy.listing one).trusts ip || (policy.listing other).trusts ip) := by
  rw [Bool.eq_iff_iff,Bool.or_eq_true]
  constructor
  · intro trusted
    obtain ⟨address,read,entry,listed,covers⟩ := listing_trusts.mp trusted
    rcases List.mem_append.mp listed with first | second
    · exact .inl (listing_trusts.mpr ⟨address,read,entry,first,covers⟩)
    · exact .inr (listing_trusts.mpr ⟨address,read,entry,second,covers⟩)
  · intro trusted
    rcases trusted with first | second
    · exact listing_trusts_mono (fun _ listed _ => List.mem_append_left _ listed) first
    · exact listing_trusts_mono (fun _ listed _ => List.mem_append_right _ listed) second

theorem listing_unreadable {policy : RealIp} {entries : List String}
    (unreadable : ∀ entry ∈ entries, Cidr.ofText? entry.toList = none) (ip : String) :
    (policy.listing entries).trusts ip = false := by
  rw [Bool.eq_false_iff,ne_eq,listing_trusts]
  intro trusted
  obtain ⟨_,_,entry,listed,range,read,_⟩ := trusted
  rw [unreadable entry listed] at read
  cases read

theorem nobody_trusted {policy : RealIp} (unlisted : policy.trustedProxies = some [])
    (ip : String) : policy.trusts ip = false := by
  rw [Bool.eq_false_iff]
  intro trusted
  cases trusts_exact.mp trusted with
  | everyone all => cases unlisted.symm.trans all
  | covered configured _ listed =>
      cases unlisted.symm.trans configured
      cases listed

-- The empty text is no address, so whoever trusts it trusts everybody.
theorem trusts_all_iff {policy : RealIp} :
    (∀ ip, policy.trusts ip = true) ↔ policy.trustedProxies = none := by
  constructor
  · intro all
    cases trusts_exact.mp (all "") with
    | everyone unlisted => exact unlisted
    | covered _ read =>
        have none : IpAddress.ofText? (trim "".toList) = none := by decide
        rw [none] at read
        cases read
  · intro unlisted ip
    exact trusts_exact.mpr (.everyone unlisted)

theorem proxies_exact (policy : RealIp) :
    (∀ ip, policy.trusts ip = true ↔ Trusts policy ip) ∧
    ((∀ ip, policy.trusts ip = true) ↔ policy.trustedProxies = none) ∧
    (∀ ip, policy.trusts ip = policy.trusted.trusts ip) ∧
    (∀ entries ip, (∀ entry ∈ entries, Cidr.ofText? entry.toList = none) →
      (policy.listing entries).trusts ip = false) ∧
    (∀ one other ip, (policy.listing (one ++ other)).trusts ip =
      ((policy.listing one).trusts ip || (policy.listing other).trusts ip)) ∧
    ∀ one other, (∀ entry, (Cidr.ofText? entry.toList).isSome = true →
        (entry ∈ one ↔ entry ∈ other)) →
      ∀ ip, (policy.listing one).trusts ip = (policy.listing other).trusts ip :=
  ⟨fun _ => trusts_exact,trusts_all_iff,fun _ => rfl,
    fun _ ip unreadable => listing_unreadable unreadable ip,listing_trusts_append policy,
    fun _ _ => listing_trusts_congr⟩

end HttpLayers.RealIp
