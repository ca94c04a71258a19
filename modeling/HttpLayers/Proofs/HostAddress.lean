import HttpLayers.Proofs.Address.Endpoint
import HttpLayers.Proofs.Launch

-- Host and port are put together as they are. An address of the newer family has colons of its own, so
-- where nobody put it between brackets the whole is no endpoint and the process ends.

namespace HttpLayers

open Net Endpoint Outcome Text

theorem ServerSettings.endpoint?_eq_some_iff {server : ServerSettings} {endpoint : Endpoint} :
    server.endpoint? = some endpoint ↔ Hosts server.port server.host.toList endpoint := by
  have written : server.address.toList =
      server.host.toList ++ ':' :: Nat.toDigits 10 server.port.toNat := by
    simp [address]
  rw [endpoint?,written,ofText?_eq_some_iff,spells_iff (Reader.isDecimal_toDigits _)]

namespace Launch

variable {host : String} {port : UInt16} {endpoint : Endpoint} {address : IpAddress}
  {entropy : Nat → Bytes}

def hostAndPort (host : String) (port : UInt16) : Environment :=
  .ofTable [("HOST",host),("PORT",toString port.toNat)]

-- A host that stands for itself: neither blank nor with blanks around it.
structure Plain (host : String) : Prop where
  present : host.toList ≠ []
  bare : trim host.toList = host.toList

theorem holds_host (plain : Plain host) : (hostAndPort host port).Holds "HOST" host.toList := by
  have holds : (hostAndPort host port).Holds "HOST" (trim host.toList) :=
    .text rfl (plain.bare.symm ▸ plain.present)
  rwa [plain.bare] at holds

theorem holds_port : (hostAndPort host port).Holds "PORT" (Nat.toDigits 10 port.toNat) := by
  have bare : trim (toString port.toNat).toList = Nat.toDigits 10 port.toNat := by
    rw [Nat.toString_eq_repr,Nat.toList_repr]
    refine strip_of_bare (.of_all fun c member => not_blank_of_visible ?_)
    exact (IsAddressChar.of_digit (Reader.isDigit_of_mem_toDigits c member)).visible
  have holds : (hostAndPort host port).Holds "PORT" (trim (toString port.toNat).toList) :=
    .text rfl (bare.symm ▸ Nat.toDigits_ne_nil)
  rwa [bare] at holds

theorem settings_hostAndPort (plain : Plain host) :
    Settings.ofEnvironment (hostAndPort host port) = .ok { server := { host,port } } := by
  have hostRead : (hostAndPort host port).text? "HOST" = some host :=
    Environment.gives_text.unique (.value (holds_host plain) rfl)
  have isDecimal := Reader.isDecimal_toDigits port.toNat
  have number : Integer.natural 65535 (Nat.toDigits 10 port.toNat) = .ok port.toNat := by
    rw [Integer.natural_eq_ok_iff]
    refine ⟨?_,Nat.le_of_lt_succ port.toNat_lt⟩
    have numeral := Integer.Numeral.plain isDecimal.present isDecimal.decimal
    rwa [isDecimal.value] at numeral
  have portRead : (hostAndPort host port).natural? 65535 "PORT" = .ok (some port.toNat) := by
    rw [Environment.natural?,Environment.read?,Environment.get?_exact.mpr holds_port]
    dsimp only
    rw [number]
    rfl
  have server : ServerSettings.ofEnvironment (hostAndPort host port) = .ok { host,port } := by
    have read : ServerSettings.ofEnvironment (hostAndPort host port) =
        .ok { host,port := port.toNat.toUInt16 } := by
      rw [ServerSettings.ofEnvironment,portRead,hostRead]
      rfl
    have same : port.toNat.toUInt16 = port := UInt16.ofNat_toNat
    rw [read,same]
  rw [Settings.ofEnvironment,server]
  rfl

theorem prepare_hostAndPort (plain : Plain host) :
    (∃ ready, prepare entropy (hostAndPort host port) = .ok ready ∧ ready.endpoint = endpoint) ↔
      Hosts port host.toList endpoint := by
  have accepted : Settings.ofEnvironment (hostAndPort host port) = .ok { server := { host,port } } :=
    settings_hostAndPort plain
  constructor
  · intro prepared
    obtain ⟨ready,prepared,rfl⟩ := prepared
    obtain ⟨read,_,_,_,found⟩ := prepare_eq_ok_iff.mp prepared
    rw [← Except.ok.inj (accepted.symm.trans read)] at found
    exact ServerSettings.endpoint?_eq_some_iff.mp found
  · intro hosts
    refine ⟨⟨_,Settings.resolve entropy _,endpoint⟩,prepare_eq_ok_iff.mpr ⟨accepted,rfl,rfl,?_,?_⟩,rfl⟩
    · exact Policies.check_eq_ok_iff.mpr (Policies.standard_usable entropy)
    · exact ServerSettings.endpoint?_eq_some_iff.mpr hosts

theorem plain_spelled (spelled : IpAddress.ofText? host.toList = some address) : Plain host :=
  ⟨IpAddress.ne_nil_of_ofText? spelled,IpAddress.trim_of_ofText? spelled⟩

def bracketed (host : String) : String := "[" ++ host ++ "]"

theorem bracketed_toList : (bracketed host).toList = '[' :: (host.toList ++ [']']) := by
  simp [bracketed]

theorem plain_bracketed : Plain (bracketed host) := by
  constructor
  · rw [bracketed_toList]
    exact List.cons_ne_nil _ _
  · rw [bracketed_toList]
    exact strip_of_bare (.enclosed (by decide) (by decide) host.toList)

theorem spelled_host_reached (spelled : IpAddress.ofText? host.toList = some address)
    (port : UInt16) (entropy : Nat → Bytes) :
    (∀ server : ServerSettings, server.host = host → server.port = port → ∀ endpoint,
      server.endpoint? = some endpoint ↔
        address.width = 32 ∧ endpoint = ofAddress port address) ∧
    (∀ endpoint, (∃ ready, prepare entropy (hostAndPort host port) = .ok ready ∧
      ready.endpoint = endpoint) ↔ address.width = 32 ∧ endpoint = ofAddress port address) ∧
    (∀ canBind fate,
      run entropy (hostAndPort host port) canBind fate = .exits 78 ↔
        address.width = 128) ∧
    ∀ endpoint, (∃ ready, prepare entropy (hostAndPort (bracketed host) port) = .ok ready ∧
      ready.endpoint = endpoint) ↔ address.width = 128 ∧ endpoint = ofAddress port address := by
  have reached : ∀ endpoint, (∃ ready, prepare entropy (hostAndPort host port) = .ok ready ∧
      ready.endpoint = endpoint) ↔ address.width = 32 ∧ endpoint = ofAddress port address :=
    fun _ => (prepare_hostAndPort (plain_spelled spelled)).trans (hosts_bare_iff spelled)
  have fits : ∀ endpoint, Fit (hostAndPort host port) endpoint ↔
      address.width = 32 ∧ endpoint = ofAddress port address :=
    fun endpoint => prepare_fit.symm.trans (reached endpoint)
  refine ⟨?_,reached,?_,?_⟩
  · rintro server rfl rfl endpoint
    exact ServerSettings.endpoint?_eq_some_iff.trans (hosts_bare_iff spelled)
  · intro canBind fate
    simp only [run_refused_iff,fits]
    cases address with
    | v4 bits => simp [IpAddress.width]
    | v6 bits => simp [IpAddress.width]
  · intro endpoint
    rw [prepare_hostAndPort plain_bracketed,bracketed_toList,hosts_bracketed_iff spelled]

theorem loopback_reached :
    IpAddress.ofText? "127.0.0.1".toList = some (.v4 0x7F000001) ∧
    ∃ ready, prepare (fun _ => []) (hostAndPort "127.0.0.1" 8080) = .ok ready ∧
      ready.endpoint = .v4 0x7F000001 8080 := by
  have spelled : IpAddress.ofText? "127.0.0.1".toList = some (.v4 0x7F000001) := by decide
  obtain ⟨_,reached,_⟩ := spelled_host_reached spelled 8080 fun _ => []
  exact ⟨spelled,(reached _).mpr ⟨rfl,rfl⟩⟩

theorem newer_host_refused :
    IpAddress.ofText? "2001:db8::7".toList = some (.v6 0x20010db8000000000000000000000007) ∧
    ({ host := "2001:db8::7",port := 3000 } : ServerSettings).endpoint? = none ∧
    run (fun _ => []) (hostAndPort "2001:db8::7" 3000) (fun _ => true) .runs = .exits 78 :=
  ⟨by decide,by decide,rfl⟩

end Launch

end HttpLayers
