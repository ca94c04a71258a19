import HttpLayers.Policy.RequestId
import HttpLayers.Proofs.Integer

-- Each byte is two digits of its own, so a text of digits is cut into bytes in one way only. The ids made
-- of random bytes are told apart by it, and an id made of the time begins with a letter that is no digit.

namespace HttpLayers.Text.Hex

variable {bytes other : Bytes} {text : List Char} {c : Char} {n : Nat}

def digits : List Char :=
  ['0','1','2','3','4','5','6','7','8','9','a','b','c','d','e','f']

-- The digit of the high half stands first.
inductive Spells : List Char → Bytes → Prop where
  | nothing : Spells [] []
  | byte {h l : Nat} {high low : Char} {text : List Char} {bytes : Bytes}
      (first : digits[h]? = some high) (second : digits[l]? = some low)
      (rest : Spells text bytes) :
      Spells (high :: low :: text) (UInt8.ofNat (16 * h + l) :: bytes)

theorem digit_iff : digits[n]? = some c ↔ n < 16 ∧ c = Nat.digitChar n := by
  have listed : ∀ n < 16, digits[n]? = some (Nat.digitChar n) := by decide
  constructor
  · intro found
    obtain ⟨small,_⟩ := List.getElem?_eq_some_iff.mp found
    rw [listed n small] at found
    exact ⟨small,(Option.some.inj found).symm⟩
  · rintro ⟨small,rfl⟩
    exact listed n small

theorem spells_encode (bytes : Bytes) : Spells (encode bytes) bytes := by
  induction bytes with
  | nil => exact .nothing
  | cons b rest ih =>
      have first := digit_iff.mpr ⟨(halves_lt b).1,rfl⟩
      have second := digit_iff.mpr ⟨(halves_lt b).2,rfl⟩
      have spelled := Spells.byte first second ih
      rwa [ofNat_halves] at spelled

theorem Spells.eq_encode (spells : Spells text bytes) : text = encode bytes := by
  induction spells with
  | nothing => rfl
  | @byte h l high low text bytes first second _ ih =>
      obtain ⟨smallHigh,rfl⟩ := digit_iff.mp first
      obtain ⟨smallLow,rfl⟩ := digit_iff.mp second
      have value : (UInt8.ofNat (16 * h + l)).toNat = 16 * h + l := by
        rw [UInt8.toNat_ofNat',Nat.mod_eq_of_lt (by omega)]
      have quotient : (16 * h + l) / 16 = h := by omega
      have remainder : (16 * h + l) % 16 = l := by omega
      rw [encode_cons,value,quotient,remainder,ih]

theorem spells_iff : Spells text bytes ↔ text = encode bytes := by
  constructor
  · exact Spells.eq_encode
  · rintro rfl
    exact spells_encode bytes

theorem Spells.length (spells : Spells text bytes) : text.length = 2 * bytes.length := by
  induction spells with
  | nothing => rfl
  | byte _ _ _ ih =>
      rw [List.length_cons,List.length_cons,List.length_cons,ih]
      omega

theorem Spells.subset (spells : Spells text bytes) : text ⊆ digits := by
  induction spells with
  | nothing => exact List.nil_subset digits
  | byte first second _ ih =>
      have high := List.mem_of_getElem? first
      have low := List.mem_of_getElem? second
      exact List.cons_subset.mpr ⟨high,List.cons_subset.mpr ⟨low,ih⟩⟩

theorem encode_append (bytes other : Bytes) :
    encode (bytes ++ other) = encode bytes ++ encode other :=
  List.flatMap_append

theorem encode_inj : encode bytes = encode other ↔ bytes = other := by
  constructor
  · intro same
    have read := decode_encode bytes
    rw [same,decode_encode] at read
    exact (Option.some.inj read).symm
  · rintro rfl
    rfl

end HttpLayers.Text.Hex

namespace HttpLayers.IdSource

open Text

variable {bytes other : Bytes} {draw another : Draw}

theorem hexId_inj : hexId bytes = hexId other ↔ bytes = other := by
  rw [hexId,hexId,String.ofList_inj,Hex.encode_inj]

-- The first letter of the other id is no digit.
theorem hexId_ne_timed (bytes : Bytes) (nanoseconds : Int) :
    hexId bytes ≠ "request-" ++ toString nanoseconds := by
  intro same
  have text : Hex.encode bytes = "request-".toList ++ (toString nanoseconds).toList := by
    rw [← String.toList_append,← same,hexId,String.toList_ofList]
  have spelled := Hex.spells_encode bytes
  rw [text] at spelled
  exact absurd (spelled.subset List.mem_cons_self : 'r' ∈ Hex.digits) (by decide)

theorem Draw.id_inj : draw.id = another.id ↔ draw = another := by
  cases draw with
  | bytes random =>
      cases another with
      | bytes => rw [id,id,hexId_inj,Draw.bytes.injEq]
      | refused => exact iff_of_false (hexId_ne_timed _ _) nofun
  | refused nanoseconds =>
      cases another with
      | bytes => exact iff_of_false (hexId_ne_timed _ _).symm nofun
      | refused => rw [id,id,String.append_right_inj,Integer.toString_inj,Draw.refused.injEq]

-- A run gives the ids in their order, and the source goes on behind the last of them.
theorem take_eq (source : IdSource) (count : Nat) : source.take count =
    ((List.range count).map fun n => source.ids (source.drawn + n),
      { source with drawn := source.drawn + count }) := by
  induction count generalizing source with
  | zero => rfl
  | succ count ih =>
      have later : ∀ n, source.drawn + 1 + n = source.drawn + (n + 1) := by omega
      simp only [take,next,ih,List.range_succ_eq_map,List.map_cons,List.map_map,Function.comp_def,
        Nat.add_zero,Nat.succ_eq_add_one,later]

theorem take_nodup_iff (draws : Nat → Draw) (count : Nat) :
    ((hexOrTime draws).take count).1.Nodup ↔ ((List.range count).map draws).Nodup := by
  rw [take_eq,List.Nodup,List.Nodup,List.pairwise_map,List.pairwise_map]
  simp only [hexOrTime,Nat.zero_add,ne_eq,Draw.id_inj]

theorem ids_told_apart (bytes other : Bytes) (draws others : Nat → Draw)
    (entropy another : Nat → Bytes) :
    (∀ text, Hex.Spells text bytes ↔ text = Hex.encode bytes) ∧
    (Hex.encode bytes).length = 2 * bytes.length ∧
    Hex.encode bytes ⊆ Hex.digits ∧
    Hex.decode (Hex.encode bytes) = some bytes ∧
    (Hex.encode bytes = Hex.encode other ↔ bytes = other) ∧
    Hex.encode (bytes ++ other) = Hex.encode bytes ++ Hex.encode other ∧
    (∀ n k, (randomHex entropy).ids n = (randomHex another).ids k ↔ entropy n = another k) ∧
    (∀ n k, (hexOrTime draws).ids n = (hexOrTime others).ids k ↔ draws n = others k) ∧
    ∀ count, ((hexOrTime draws).take count).1.Nodup ↔
      ((List.range count).map draws).Nodup := by
  have spelled := Hex.spells_encode bytes
  exact ⟨fun _ => Hex.spells_iff,spelled.length,spelled.subset,Hex.decode_encode bytes,
    Hex.encode_inj,Hex.encode_append bytes other,fun _ _ => hexId_inj,fun _ _ => Draw.id_inj,
    take_nodup_iff draws⟩

end HttpLayers.IdSource
