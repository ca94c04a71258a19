import HttpLayers.Policy.Recover

-- A trace is cut at the last place between two characters that the limit allows. Such a place is found
-- before the search leaves the front, and the next one is too far, so no more could have been kept.

namespace HttpLayers.Recover

variable {policy : Recover} {trace kept larger : String} {room : Nat}

theorem isPrefix_iff : kept.toList <+: trace.toList ↔ ∃ rest, trace = kept ++ rest := by
  constructor
  · intro begins
    obtain ⟨rest,whole⟩ := begins
    exact ⟨String.ofList rest,by rw [← String.toList_inj,String.toList_append,
      String.toList_ofList,whole]⟩
  · intro begins
    obtain ⟨rest,rfl⟩ := begins
    exact ⟨rest.toList,String.toList_append.symm⟩

theorem utf8ByteSize_le (begins : kept.toList <+: trace.toList) :
    kept.utf8ByteSize ≤ trace.utf8ByteSize := by
  obtain ⟨rest,rfl⟩ := isPrefix_iff.mp begins
  rw [String.utf8ByteSize_append]
  exact Nat.le_add_right ..

theorem isValid_of_isPrefix (begins : kept.toList <+: trace.toList) :
    (⟨kept.utf8ByteSize⟩ : String.Pos.Raw).IsValid trace := by
  obtain ⟨rest,whole⟩ := isPrefix_iff.mp begins
  exact String.Pos.Raw.isValid_iff_exists_append.mpr ⟨kept,rest,whole,rfl⟩

-- The longest beginning of the trace, in whole characters, that takes no more bytes than there is room.
structure Longest (trace : String) (room : Nat) (kept : String) : Prop where
  begins : kept.toList <+: trace.toList
  fits : kept.utf8ByteSize ≤ room
  most : ∀ other : String, other.toList <+: trace.toList → other.utf8ByteSize ≤ room →
    other.toList <+: kept.toList

theorem Longest.unique {other : String} (longest : Longest trace room kept)
    (also : Longest trace room other) : kept = other := by
  have forth := also.most kept longest.begins longest.fits
  have back := longest.most other also.begins also.fits
  exact String.toList_inj.mp (forth.eq_of_length_le back.length_le)

theorem Longest.whole (enough : trace.utf8ByteSize ≤ room) : Longest trace room trace :=
  ⟨List.prefix_rfl,enough,fun _ begins _ => begins⟩

theorem Longest.grows {more : Nat} (longest : Longest trace room kept)
    (also : Longest trace more larger) (least : room ≤ more) : kept.toList <+: larger.toList :=
  also.most kept longest.begins (Nat.le_trans longest.fits least)

-- The character behind what is kept does not fit, and none takes more than four bytes.
theorem Longest.near (longest : Longest trace room kept) (short : room < trace.utf8ByteSize) :
    room ≤ kept.utf8ByteSize + 3 := by
  obtain ⟨rest,whole⟩ := isPrefix_iff.mp longest.begins
  cases behind : rest.toList with
  | nil =>
      rw [String.toList_eq_nil_iff.mp behind,String.append_empty] at whole
      have fits := longest.fits
      rw [← whole] at fits
      omega
  | cons c tail =>
      have begins : (kept ++ String.singleton c).toList <+: trace.toList := by
        refine ⟨tail,?_⟩
        rw [whole,String.toList_append,String.toList_append,behind,String.toList_singleton,
          List.append_assoc]
        rfl
      have size : (kept ++ String.singleton c).utf8ByteSize = kept.utf8ByteSize + c.utf8Size := by
        rw [String.utf8ByteSize_append,String.utf8ByteSize_singleton]
      have bound := c.utf8Size_le_four
      by_cases fits : (kept ++ String.singleton c).utf8ByteSize ≤ room
      · have longer := utf8ByteSize_le (longest.most _ begins fits)
        have positive := c.utf8Size_pos
        omega
      · omega

-- The front is a place between characters, so the search comes to one.
theorem boundary?_nearest (trace : String) (n : Nat) : ∃ place ≤ n, boundary? trace n = some place ∧
    (⟨place⟩ : String.Pos.Raw).IsValid trace ∧
    ∀ other ≤ n, (⟨other⟩ : String.Pos.Raw).IsValid trace → other ≤ place := by
  induction n with
  | zero =>
      have front : (⟨0⟩ : String.Pos.Raw).IsValid trace := String.Pos.Raw.isValid_zero
      refine ⟨0,Nat.le_refl 0,?_,front,fun _ bound _ => bound⟩
      rw [boundary?,if_pos (String.Pos.Raw.isValid_eq_true_iff.mpr front)]
  | succ n ih =>
      rw [boundary?]
      by_cases here : (⟨n + 1⟩ : String.Pos.Raw).IsValid trace
      · rw [if_pos (String.Pos.Raw.isValid_eq_true_iff.mpr here)]
        exact ⟨n + 1,Nat.le_refl _,rfl,here,fun _ bound _ => bound⟩
      · rw [if_neg (fun valid => here (String.Pos.Raw.isValid_eq_true_iff.mp valid))]
        obtain ⟨place,bound,found,valid,last⟩ := ih
        refine ⟨place,Nat.le_succ_of_le bound,found,valid,?_⟩
        intro other below also
        rcases Nat.le_succ_iff.mp below with lower | same
        · exact last other lower also
        · rw [same] at also
          exact absurd also here

theorem front?_of_isValid {n : Nat} (valid : (⟨n⟩ : String.Pos.Raw).IsValid trace) :
    ∃ kept, front? trace n = some kept ∧ kept.toList <+: trace.toList ∧ kept.utf8ByteSize = n := by
  have splits := (trace.pos ⟨n⟩ valid).splits
  refine ⟨(trace.sliceTo (trace.pos ⟨n⟩ valid)).copy,dif_pos valid,?_,?_⟩
  · exact isPrefix_iff.mpr ⟨_,splits.eq_append⟩
  · exact (congrArg String.Pos.Raw.byteIdx splits.offset_eq_rawEndPos).symm

theorem cut_longest (trace : String) (room : Nat) :
    ∃ kept, (boundary? trace room).bind (front? trace) = some kept ∧ Longest trace room kept := by
  obtain ⟨place,bound,found,valid,last⟩ := boundary?_nearest trace room
  obtain ⟨kept,cut,begins,size⟩ := front?_of_isValid valid
  refine ⟨kept,by rw [found,Option.bind_some,cut],begins,size ▸ bound,?_⟩
  intro other also fits
  rcases List.prefix_or_prefix_of_prefix also begins with shorter | longer
  · exact shorter
  · have most := last _ fits (isValid_of_isPrefix also)
    obtain ⟨rest,same⟩ := isPrefix_iff.mp longer
    have nothing : rest.utf8ByteSize = 0 := by
      rw [same,String.utf8ByteSize_append] at most
      omega
    have whole : other = kept := by
      rw [same,String.utf8ByteSize_eq_zero_iff.mp nothing,String.append_empty]
    exact whole ▸ List.prefix_rfl

def Traces (policy : Recover) : Prop :=
  policy.enableStackTrace = true ∧ 0 < policy.stackSize

-- Without traces nothing is kept, whatever would fit.
inductive Clipped (policy : Recover) (trace : String) : String → Prop where
  | silent (off : ¬policy.Traces) : Clipped policy trace ""
  | traced {kept : String} (on : policy.Traces)
      (longest : Longest trace policy.stackSize.toNat kept) : Clipped policy trace kept

theorem clip?_clipped (policy : Recover) (trace : String) :
    ∃ kept, policy.clip? trace = some kept ∧ Clipped policy trace kept := by
  have decided : (!policy.enableStackTrace || decide (policy.stackSize ≤ 0)) = true ↔
      ¬policy.Traces := by
    rw [Traces,Bool.or_eq_true,decide_eq_true_eq,← Int.not_lt]
    cases policy.enableStackTrace <;> simp
  unfold clip?
  dsimp only
  split
  · rename_i off
    exact ⟨"",rfl,.silent (decided.mp off)⟩
  · rename_i on
    rw [decided,Classical.not_not] at on
    split
    · rename_i enough
      exact ⟨trace,rfl,.traced on (.whole enough)⟩
    · obtain ⟨kept,found,longest⟩ := cut_longest trace policy.stackSize.toNat
      exact ⟨kept,found,.traced on longest⟩

theorem Clipped.longest (clipped : Clipped policy trace kept) (on : policy.Traces) :
    Longest trace policy.stackSize.toNat kept := by
  cases clipped with
  | silent off => exact absurd on off
  | traced _ longest => exact longest

theorem Clipped.empty (clipped : Clipped policy trace kept) (off : ¬policy.Traces) : kept = "" := by
  cases clipped with
  | silent => rfl
  | traced on => exact absurd on off

theorem clip?_eq_some_iff : policy.clip? trace = some kept ↔ Clipped policy trace kept := by
  obtain ⟨found,cut,clipped⟩ := clip?_clipped policy trace
  rw [cut,Option.some.injEq]
  constructor
  · rintro rfl
    exact clipped
  · intro also
    by_cases on : policy.Traces
    · exact (clipped.longest on).unique (also.longest on)
    · rw [clipped.empty on,also.empty on]

theorem Clipped.again (clipped : Clipped policy trace kept) : Clipped policy kept kept := by
  cases clipped with
  | silent off => exact .silent off
  | traced on longest => exact .traced on (.whole longest.fits)

theorem Clipped.grows {size : Int} (clipped : Clipped policy trace kept)
    (least : policy.stackSize ≤ size)
    (also : Clipped { policy with stackSize := size } trace larger) :
    kept.toList <+: larger.toList := by
  cases clipped with
  | silent => exact List.nil_prefix
  | traced on longest =>
      have enough : 0 < size := Int.lt_of_lt_of_le on.2 least
      exact longest.grows (also.longest ⟨on.1,enough⟩) (Int.toNat_le_toNat least)

theorem clipped_exactly (policy : Recover) (trace : String) :
    ∃ kept, policy.clip? trace = some kept ∧
      (policy.Traces → Longest trace policy.stackSize.toNat kept ∧
        (policy.stackSize < trace.utf8ByteSize → policy.stackSize ≤ kept.utf8ByteSize + 3) ∧
        (trace.utf8ByteSize ≤ policy.stackSize → kept = trace)) ∧
      (¬policy.Traces → kept = "") ∧
      policy.clip? kept = some kept ∧
      ∀ size, policy.stackSize ≤ size → ∃ larger,
        { policy with stackSize := size }.clip? trace = some larger ∧
          kept.toList <+: larger.toList := by
  obtain ⟨kept,found,clipped⟩ := clip?_clipped policy trace
  refine ⟨kept,found,?_,clipped.empty,clip?_eq_some_iff.mpr clipped.again,?_⟩
  · intro on
    have positive := on.2
    have longest := clipped.longest on
    refine ⟨longest,?_,?_⟩
    · intro short
      have near := longest.near (by omega)
      omega
    · intro enough
      exact longest.unique (.whole (by omega))
  · intro size least
    obtain ⟨larger,cut,also⟩ := clip?_clipped { policy with stackSize := size } trace
    exact ⟨larger,cut,clipped.grows least also⟩

-- Two bytes would cut the second character in half.
example : { stackSize := 2 : Recover }.clip? "aé" = some "a" :=
  rfl

end HttpLayers.Recover
