import HttpLayers.Net.Endpoint
import HttpLayers.Proofs.Address.RoundTrip
import HttpLayers.Proofs.Address.Suffix
import HttpLayers.Proofs.Parts

-- An endpoint is a host and a port, with a colon between them. An address of the newer family is a host
-- only between brackets, where a scope may stand behind it.

namespace HttpLayers.Net.Endpoint

open Reader Text

variable {s rest host inner zone digits : List Char} {endpoint : Endpoint} {port : UInt16}
  {scope : UInt32}

inductive Zone : List Char → UInt32 → Prop where
  | unwritten : Zone [] 0
  | written {digits : List Char} {scope : UInt32} (isDecimal : IsDecimal digits scope.toNat) :
      Zone ('%' :: digits) scope

inductive Hosts (port : UInt16) : List Char → Endpoint → Prop where
  | bare {host : List Char} {bits : BitVec 32} (read : IpAddress.ofText? host = some (.v4 bits)) :
      Hosts port host (.v4 bits port)
  | bracketed {inner zone : List Char} {bits : BitVec 128} {scope : UInt32}
      (read : IpAddress.ofText? inner = some (.v6 bits)) (isZone : Zone zone scope) :
      Hosts port ('[' :: (inner ++ (zone ++ [']']))) (.v6 bits scope port)

inductive Spells : List Char → Endpoint → Prop where
  | ported {host digits : List Char} {port : UInt16} {endpoint : Endpoint}
      (hosts : Hosts port host endpoint) (isDecimal : IsDecimal digits port.toNat) :
      Spells (host ++ ':' :: digits) endpoint

theorem readPort_eq_some_iff : readPort s = some (port,rest) ↔ ∃ digits,
    s = ':' :: (digits ++ rest) ∧ IsDecimal digits port.toNat ∧ Ends Char.isDigit rest := by
  constructor
  · intro read
    obtain ⟨⟨_,t⟩,colon,read⟩ := Option.bind_eq_some_iff.mp read
    obtain ⟨⟨n,_⟩,number,made⟩ := Option.bind_eq_some_iff.mp read
    cases made
    obtain ⟨digits,rfl,isDecimal,small,ends⟩ := decimal_eq_some_iff.mp number
    refine ⟨digits,exactly_eq_some_iff.mp colon,?_,ends⟩
    rwa [UInt16.toNat_ofNat',Nat.mod_eq_of_lt (Nat.lt_succ_of_le small)]
  · intro written
    obtain ⟨digits,rfl,isDecimal,ends⟩ := written
    have number := decimal_eq_some_iff.mpr
      ⟨digits,rfl,isDecimal,Nat.le_of_lt_succ port.toNat_lt,ends⟩
    simp [readPort,exactly,number]

theorem readScope_zone (read : readScope s = (scope,rest)) :
    ∃ zone, Zone zone scope ∧ s = zone ++ rest := by
  unfold readScope at read
  dsimp only at read
  split at read
  · rename_i n left found
    obtain ⟨⟨_,t⟩,percent,number⟩ := Option.bind_eq_some_iff.mp found
    obtain ⟨digits,rfl,isDecimal,small,_⟩ := decimal_eq_some_iff.mp number
    cases read
    refine ⟨'%' :: digits,.written ?_,exactly_eq_some_iff.mp percent⟩
    rwa [UInt32.toNat_ofNat',Nat.mod_eq_of_lt (Nat.lt_succ_of_le small)]
  · cases read
    exact ⟨[],.unwritten,rfl⟩

theorem Zone.read (isZone : Zone zone scope) (tail : List Char) :
    readScope (zone ++ ']' :: tail) = (scope,']' :: tail) := by
  cases isZone with
  | unwritten => rfl
  | written isDecimal =>
      have number := decimal_eq_some_iff.mpr ⟨_,rfl,isDecimal,Nat.le_of_lt_succ scope.toNat_lt,
        (ends_cons (by decide) : Ends Char.isDigit (']' :: tail))⟩
      simp [readScope,exactly,number]

theorem Zone.outside (isZone : Zone zone scope) (tail : List Char) :
    IpAddress.Outside (zone ++ ']' :: tail) := by
  cases isZone with
  | unwritten => exact IpAddress.outside_cons (by decide)
  | written => exact IpAddress.outside_cons (by decide)

theorem readV4_colon (digits : List Char) : Halts IpAddress.readV4 (':' :: digits) :=
  IpAddress.readV4_halts (ends_cons (by decide)) (ends_cons (by decide))

theorem readV4_spells (read : readV4 s = some (endpoint,[])) : Spells s endpoint := by
  obtain ⟨⟨bits,_⟩,octets,read⟩ := Option.bind_eq_some_iff.mp read
  obtain ⟨⟨port,_⟩,number,made⟩ := Option.bind_eq_some_iff.mp read
  cases made
  obtain ⟨digits,rfl,isDecimal,_⟩ := readPort_eq_some_iff.mp number
  rw [List.append_nil] at octets
  obtain ⟨host,rfl,_⟩ := IpAddress.readV4_leads octets
  exact .ported (.bare (IpAddress.ofText?_v4_iff.mpr ((readV4_colon digits).alone octets))) isDecimal

theorem readV6_spells (read : readV6 s = some (endpoint,[])) : Spells s endpoint := by
  obtain ⟨⟨_,_⟩,opened,read⟩ := Option.bind_eq_some_iff.mp read
  obtain ⟨⟨bits,behind⟩,groups,read⟩ := Option.bind_eq_some_iff.mp read
  dsimp only at read
  cases zoned : readScope behind with
  | mk scope left =>
      rw [zoned] at read
      obtain ⟨⟨_,_⟩,closed,read⟩ := Option.bind_eq_some_iff.mp read
      obtain ⟨⟨port,_⟩,number,made⟩ := Option.bind_eq_some_iff.mp read
      cases made
      obtain ⟨digits,rfl,isDecimal,_⟩ := readPort_eq_some_iff.mp number
      obtain ⟨zone,isZone,rfl⟩ := readScope_zone zoned
      obtain rfl := exactly_eq_some_iff.mp closed
      obtain ⟨inner,rfl,_⟩ := IpAddress.readV6_leads groups
      have alone := (IpAddress.readV6_halts (isZone.outside _)).alone groups
      have spelled : Spells _ (.v6 bits scope port) :=
        .ported (.bracketed (IpAddress.ofText?_v6_iff.mpr alone) isZone) isDecimal
      simpa [exactly_eq_some_iff.mp opened] using spelled

theorem Spells.read (spells : Spells s endpoint) : ofText? s = some endpoint := by
  cases spells with
  | @ported host digits port endpoint hosts isDecimal =>
      have number : readPort (':' :: digits) = some (port,[]) :=
        readPort_eq_some_iff.mpr ⟨digits,by rw [List.append_nil],isDecimal,ends_nil _⟩
      cases hosts with
      | bare read =>
          have octets := (readV4_colon digits).taken (IpAddress.ofText?_v4_iff.mp read)
          simp [ofText?,readV4,octets,number]
      | @bracketed inner zone bits scope read isZone =>
          have dotless := IpAddress.readV4_ends (ends_cons (by decide) :
            Ends Char.isDigit ('[' :: (inner ++ (zone ++ ']' :: ':' :: digits))))
          have groups := (IpAddress.readV6_halts (isZone.outside (':' :: digits))).taken
            (IpAddress.ofText?_v6_iff.mp read)
          simp [ofText?,readV4,readV6,dotless,exactly,groups,isZone.read,number]

theorem ofText?_eq_some_iff : ofText? s = some endpoint ↔ Spells s endpoint := by
  constructor
  · intro read
    unfold ofText? at read
    split at read
    · rename_i found whole
      cases read
      cases octets : readV4 s with
      | some older =>
          rw [octets] at whole
          cases whole
          exact readV4_spells octets
      | none =>
          rw [octets] at whole
          exact readV6_spells whole
    · cases read
  · exact Spells.read

theorem zone_text (scope : UInt32) :
    Zone (if scope = 0 then [] else '%' :: Nat.toDigits 10 scope.toNat) scope := by
  split
  · rename_i nothing
    rw [nothing]
    exact .unwritten
  · exact .written (isDecimal_toDigits scope.toNat)

-- The text of an endpoint has the brackets that reading it back needs.
theorem spells_text (endpoint : Endpoint) : Spells endpoint.text endpoint := by
  cases endpoint with
  | v4 bits port =>
      exact .ported (.bare (IpAddress.ofText?_text (.v4 bits))) (isDecimal_toDigits port.toNat)
  | v6 bits scope port =>
      have hosts : Hosts port _ (.v6 bits scope port) :=
        .bracketed (IpAddress.ofText?_text (.v6 bits)) (zone_text scope)
      simpa [text] using Spells.ported hosts (isDecimal_toDigits port.toNat)

theorem ofText?_text (endpoint : Endpoint) : ofText? endpoint.text = some endpoint :=
  ofText?_eq_some_iff.mpr (spells_text endpoint)

-- The last colon parts the two, whatever stands in front of it.
theorem spells_iff (isDecimal : IsDecimal digits port.toNat) :
    Spells (host ++ ':' :: digits) endpoint ↔ Hosts port host endpoint := by
  constructor
  · intro spells
    generalize written : host ++ ':' :: digits = text at spells
    cases spells with
    | ported hosts other =>
        obtain ⟨rfl,rfl⟩ := cut_last_unique written (isDecimal.not_mem (by decide))
          (other.not_mem (by decide))
        have same := isDecimal.value.symm.trans other.value
        rwa [UInt16.toNat_inj.mp same]
  · intro hosts
    exact .ported hosts isDecimal

def ofAddress (port : UInt16) : IpAddress → Endpoint
  | .v4 bits => v4 bits port
  | .v6 bits => v6 bits 0 port

variable {address : IpAddress}

theorem hosts_bare_iff (spelled : IpAddress.ofText? host = some address) :
    Hosts port host endpoint ↔ address.width = 32 ∧ endpoint = ofAddress port address := by
  constructor
  · intro hosts
    cases hosts with
    | bare read =>
        cases spelled.symm.trans read
        exact ⟨rfl,rfl⟩
    | bracketed =>
        exact absurd List.mem_cons_self (IpAddress.not_mem_ofText? spelled (by decide))
  · intro older
    obtain ⟨width,rfl⟩ := older
    cases address with
    | v4 bits => exact .bare spelled
    | v6 bits => cases width

theorem hosts_bracketed_iff (spelled : IpAddress.ofText? host = some address) :
    Hosts port ('[' :: (host ++ [']'])) endpoint ↔
      address.width = 128 ∧ endpoint = ofAddress port address := by
  constructor
  · intro hosts
    generalize written : '[' :: (host ++ [']']) = text at hosts
    cases hosts with
    | bare read =>
        rw [← written] at read
        exact absurd List.mem_cons_self (IpAddress.not_mem_ofText? read (by decide))
    | @bracketed inner zone bits scope read isZone =>
        rw [← List.append_assoc] at written
        have same := List.append_cancel_right (List.cons.inj written).2
        cases isZone with
        | unwritten =>
            rw [List.append_nil] at same
            cases spelled.symm.trans (same ▸ read)
            exact ⟨rfl,rfl⟩
        | written =>
            have percent := IpAddress.not_mem_ofText? spelled (by decide : ¬IsAddressChar '%')
            rw [same] at percent
            exact absurd (List.mem_append_right inner List.mem_cons_self) percent
  · intro newer
    obtain ⟨width,rfl⟩ := newer
    cases address with
    | v4 bits => cases width
    | v6 bits => exact .bracketed spelled .unwritten

variable {other : Endpoint}

theorem eq_iff : endpoint = other ↔ endpoint.address = other.address ∧
    endpoint.port = other.port ∧ endpoint.scope? = other.scope? := by
  constructor
  · rintro rfl
    exact ⟨rfl,rfl,rfl⟩
  · intro same
    obtain ⟨address,port,scope⟩ := same
    cases endpoint with
    | v4 bits _ =>
        cases other with
        | v4 =>
            cases address
            cases port
            rfl
        | v6 => cases scope
    | v6 bits _ _ =>
        cases other with
        | v4 => cases scope
        | v6 =>
            cases address
            cases port
            cases scope
            rfl

theorem text_inj : endpoint.text = other.text ↔ endpoint = other := by
  constructor
  · intro same
    have read := ofText?_text endpoint
    rw [same,ofText?_text] at read
    exact (Option.some.inj read).symm
  · rintro rfl
    rfl

theorem text_ne_nil : endpoint.text ≠ [] := by
  intro empty
  have read := ofText?_text endpoint
  rw [empty] at read
  cases read

end HttpLayers.Net.Endpoint
