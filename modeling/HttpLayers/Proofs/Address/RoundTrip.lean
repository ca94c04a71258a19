import HttpLayers.Proofs.Address.Alphabet
import HttpLayers.Proofs.Address.Digits

-- Every address is read back from its text. A text with the zeros left out is read as two runs of
-- groups with the missing ones between them; the mapped form is the only one of its family with
-- octets in it.

namespace HttpLayers.Net.IpAddress

open Reader Text

theorem exactly_absent {c : Char} {s : List Char} (absent : c ∉ s) : exactly c s = none := by
  cases s with
  | nil => rfl
  | cons d rest =>
      rw [exactly,if_neg]
      rintro rfl
      exact absent (List.mem_cons_self ..)

theorem readV4_dotless {s : List Char} (dotless : '.' ∉ s) : readV4 s = none := by
  unfold readV4
  cases first : octet s with
  | none => rfl
  | some found =>
      have absent : '.' ∉ found.2 := fun member => dotless ((octet_leads first).mem member)
      simp [exactly_absent absent]

theorem readV4_ends {s : List Char} (ends : Ends Char.isDigit s) : readV4 s = none := by
  have taken : s.takeWhile Char.isDigit = [] := (cut_ends (List.forall_mem_nil _) ends).1
  have none : octet s = none := by simp [octet,decimal,taken]
  simp [readV4,none]

theorem ofOctets_octets (bits : BitVec 32) : ofOctets (octets bits) = bits := by
  have fits : bits.toNat < Nat.pow 256 4 := bits.isLt
  rw [ofOctets,octets,ofDigits_digitsOf fits,BitVec.ofNat_toNat,BitVec.setWidth_eq]

theorem ofGroups_groups (bits : BitVec 128) : ofGroups (groups bits) = bits := by
  have fits : bits.toNat < Nat.pow 65536 8 := bits.isLt
  rw [ofGroups,groups,ofDigits_digitsOf fits,BitVec.ofNat_toNat,BitVec.setWidth_eq]

theorem lt_of_mem_groups {bits : BitVec 128} : ∀ d ∈ groups bits, d < 65536 :=
  fun _ => lt_of_mem_digitsOf (by decide)

theorem readV4_dotted (bits : BitVec 32) {rest : List Char} (ends : Ends Char.isDigit rest) :
    readV4 (dotted bits ++ rest) = some (bits,rest) := by
  have whole := ofOctets_octets bits
  have small : ∀ d ∈ octets bits, d < 256 := fun _ => lt_of_mem_digitsOf (by decide)
  obtain ⟨a,b,c,d,four⟩ : ∃ a b c d, octets bits = [a,b,c,d] := ⟨_,_,_,_,rfl⟩
  have dot : ∀ s, Ends Char.isDigit ('.' :: s) := fun s => ends_cons (by decide)
  rw [four] at whole small
  simp only [List.forall_mem_cons] at small
  obtain ⟨smallA,smallB,smallC,smallD,_⟩ := small
  have written : dotted bits ++ rest = Nat.toDigits 10 a ++ '.' :: (Nat.toDigits 10 b ++
      '.' :: (Nat.toDigits 10 c ++ '.' :: (Nat.toDigits 10 d ++ rest))) := by
    simp [dotted,four,List.intercalate]
  simp [written,readV4,octet_toDigits smallA (dot _),octet_toDigits smallB (dot _),
    octet_toDigits smallC (dot _),octet_toDigits smallD ends,exactly,whole]

-- Groups that follow another one, each behind its colon.
def links (digits : List Nat) : List Char :=
  digits.flatMap fun d => ':' :: Nat.toDigits 16 d

theorem colonned_cons (d : Nat) (digits : List Nat) :
    colonned (d :: digits) = Nat.toDigits 16 d ++ links digits := by
  induction digits generalizing d with
  | nil => simp [colonned,links,List.intercalate]
  | cons e digits ih =>
      have rest := ih e
      unfold colonned at rest ⊢
      rw [List.map_cons,List.map_cons,List.intercalate_cons_cons,← List.map_cons,rest]
      simp [links]

-- Where a run of groups stops: at the end, or at the mark of the zeros left out.
inductive Closed : List Char → Prop where
  | finished : Closed []
  | marked (rest : List Char) : Closed (':' :: ':' :: rest)

theorem Closed.ends {p : Char → Bool} {rest : List Char} (closed : Closed rest)
    (outside : p ':' = false) : Ends p rest := by
  cases closed with
  | finished => exact ends_nil p
  | marked => exact ends_cons outside

theorem links_ends {digits : List Nat} {rest : List Char} (closed : Closed rest) :
    Ends isHexDigit (links digits ++ rest) := by
  cases digits with
  | nil => exact closed.ends (by decide)
  | cons d digits => exact ends_cons (by decide)

theorem readGroups_group (room : Nat) {g : Nat} {t rest : List Char} (dotless : readV4 t = none)
    (read : group t = some (g,rest)) :
    readGroups (room + 1) true t = ⟨g :: (readGroups room false rest).groups,
      (readGroups room false rest).dotted,(readGroups room false rest).rest⟩ ∧
    readGroups (room + 1) false (':' :: t) = ⟨g :: (readGroups room false rest).groups,
      (readGroups room false rest).dotted,(readGroups room false rest).rest⟩ := by
  constructor <;> simp [readGroups,exactly,dotless,read]

theorem readGroups_none (room : Nat) {t : List Char} (dotless : readV4 t = none)
    (ends : Ends isHexDigit t) : readGroups (room + 1) true t = ⟨[],false,t⟩ ∧
      readGroups (room + 1) false (':' :: t) = ⟨[],false,':' :: t⟩ := by
  constructor <;> simp [readGroups,exactly,dotless,group_ends ends]

theorem mem_links {digits : List Nat} {c : Char} (member : c ∈ links digits) :
    c = ':' ∨ isHexDigit c = true := by
  obtain ⟨d,_,inside⟩ := List.mem_flatMap.mp member
  rcases List.mem_cons.mp inside with colon | digit
  · exact .inl colon
  · exact .inr (isHexDigit_of_mem_toDigits isBase_sixteen c digit)

theorem mem_colonned {digits : List Nat} {c : Char} (member : c ∈ colonned digits) :
    c = ':' ∨ isHexDigit c = true := by
  cases digits with
  | nil => cases member
  | cons d digits =>
      rw [colonned_cons] at member
      rcases List.mem_append.mp member with digit | link
      · exact .inr (isHexDigit_of_mem_toDigits isBase_sixteen c digit)
      · exact mem_links link

theorem not_dot {c : Char} (kind : c = ':' ∨ isHexDigit c = true) : c ≠ '.' := by
  rintro rfl
  rcases kind with colon | digit
  · cases colon
  · cases digit

theorem readGroups_closed (room : Nat) {rest : List Char} (closed : Closed rest)
    (dotless : '.' ∉ rest) : readGroups (room + 1) true rest = ⟨[],false,rest⟩ ∧
      readGroups room false rest = ⟨[],false,rest⟩ := by
  refine ⟨(readGroups_none room (readV4_dotless dotless) (closed.ends (by decide))).1,?_⟩
  cases room with
  | zero => rfl
  | succ room =>
      cases closed with
      | finished => rfl
      | marked more =>
          have inner : '.' ∉ ':' :: more := fun member => dotless (List.mem_cons_of_mem _ member)
          exact (readGroups_none room (readV4_dotless inner) (ends_cons (by decide))).2

theorem readGroups_links {digits : List Nat} {room : Nat} {rest : List Char}
    (small : ∀ d ∈ digits, d < 65536) (enough : digits.length ≤ room) (closed : Closed rest)
    (dotless : '.' ∉ rest) : readGroups room false (links digits ++ rest) = ⟨digits,false,rest⟩ := by
  induction digits generalizing room with
  | nil => exact (readGroups_closed room closed dotless).2
  | cons d digits ih =>
      obtain ⟨room,rfl⟩ := Nat.exists_eq_succ_of_ne_zero (Nat.ne_zero_of_lt enough)
      obtain ⟨first,others⟩ := List.forall_mem_cons.mp small
      have tail := ih others (Nat.le_of_succ_le_succ enough)
      have absent : '.' ∉ Nat.toDigits 16 d ++ (links digits ++ rest) := by
        intro member
        rcases List.mem_append.mp member with digit | later
        · exact not_dot (.inr (isHexDigit_of_mem_toDigits isBase_sixteen _ digit)) rfl
        · rcases List.mem_append.mp later with link | last
          · exact not_dot (mem_links link) rfl
          · exact dotless last
      have read := (readGroups_group room (readV4_dotless absent)
        (group_toDigits first (links_ends closed))).2
      rw [tail] at read
      simpa [links] using read

theorem readGroups_colonned {digits : List Nat} (room : Nat) {rest : List Char}
    (small : ∀ d ∈ digits, d < 65536) (enough : digits.length ≤ room + 1) (closed : Closed rest)
    (dotless : '.' ∉ rest) :
    readGroups (room + 1) true (colonned digits ++ rest) = ⟨digits,false,rest⟩ := by
  cases digits with
  | nil => exact (readGroups_closed room closed dotless).1
  | cons d digits =>
      obtain ⟨first,others⟩ := List.forall_mem_cons.mp small
      have absent : '.' ∉ Nat.toDigits 16 d ++ (links digits ++ rest) := by
        rw [← List.append_assoc,← colonned_cons]
        intro member
        rcases List.mem_append.mp member with group | last
        · exact not_dot (mem_colonned group) rfl
        · exact dotless last
      have read := (readGroups_group room (readV4_dotless absent)
        (group_toDigits first (links_ends closed))).1
      rw [readGroups_links others (Nat.le_of_succ_le_succ enough) closed dotless] at read
      rwa [colonned_cons,List.append_assoc]

-- The eight groups with the run in the middle taken out.
structure Gap (digits : List Nat) (start length : Nat) : Prop where
  several : 2 ≤ length
  inside : start + length ≤ digits.length
  zeros : digits = digits.take start ++ List.replicate length 0 ++ digits.drop (start + length)

theorem runs_bounded : ∀ run ∈ runs, 2 ≤ run.2 ∧ run.1 + run.2 ≤ 8 := by
  decide

theorem zeroRun?_gap {digits : List Nat} {start length : Nat} (eight : digits.length = 8)
    (found : zeroRun? digits = some (start,length)) : Gap digits start length := by
  obtain ⟨several,inside⟩ := runs_bounded _ (List.mem_of_find?_eq_some found)
  dsimp only at several inside
  have all := List.find?_some found
  dsimp only at all
  have middle : (digits.drop start).take length = List.replicate length 0 := by
    refine List.eq_replicate_iff.mpr ⟨?_,?_⟩
    · rw [List.length_take,List.length_drop]
      omega
    · intro d member
      exact beq_iff_eq.mp (List.all_eq_true.mp all d member)
  refine ⟨several,by omega,?_⟩
  calc
    digits = digits.take start ++ digits.drop start := (List.take_append_drop start digits).symm
    _ = digits.take start ++ ((digits.drop start).take length ++
        (digits.drop start).drop length) := by rw [List.take_append_drop length]
    _ = _ := by rw [middle,List.drop_drop,List.append_assoc]

theorem readV6_colonned {bits : BitVec 128} :
    readV6 (colonned (groups bits)) = some (bits,[]) := by
  have eight : (groups bits).length = 8 := length_digitsOf 65536 8 bits.toNat
  have front := readGroups_colonned 7 lt_of_mem_groups
    (Nat.le_of_eq eight) .finished List.not_mem_nil
  rw [List.append_nil] at front
  simp [readV6,front,eight,ofGroups_groups]

theorem readV6_gap {bits : BitVec 128} {start length : Nat}
    (gap : Gap (groups bits) start length) :
    readV6 (colonned ((groups bits).take start) ++ [':',':'] ++
      colonned ((groups bits).drop (start + length))) = some (bits,[]) := by
  have eight : (groups bits).length = 8 := length_digitsOf 65536 8 bits.toNat
  have several := gap.several
  have inside := gap.inside
  rw [eight] at inside
  have frontLength : ((groups bits).take start).length = start := by
    rw [List.length_take,eight]; omega
  have backLength : ((groups bits).drop (start + length)).length = 8 - (start + length) := by
    rw [List.length_drop,eight]
  have missing : 8 - start - (8 - (start + length)) = length := by omega
  obtain ⟨room,enough⟩ : ∃ room, 7 - start = room + 1 := ⟨6 - start,by omega⟩
  have dotless : '.' ∉ ':' :: ':' :: colonned ((groups bits).drop (start + length)) := by
    intro member
    simp only [List.mem_cons,Char.reduceEq,false_or] at member
    exact not_dot (mem_colonned member) rfl
  have front := readGroups_colonned 7
    (fun d member => lt_of_mem_groups d (List.mem_of_mem_take member))
    (by rw [frontLength]; omega) (.marked _) dotless
  have back := readGroups_colonned room
    (fun d member => lt_of_mem_groups d (List.mem_of_mem_drop member))
    (by rw [backLength]; omega) .finished List.not_mem_nil
  rw [List.append_nil] at back
  have short : start ≠ 8 := by omega
  rw [List.append_assoc]
  simp only [readV6,List.cons_append,List.nil_append,front,frontLength,short,if_false,exactly,
    if_true,Option.bind_eq_bind,Option.bind_some,enough,back,backLength,missing,← gap.zeros,
    ofGroups_groups]
  rfl

-- The groups `0:0:0:0:0:ffff` in front are all that the two halves of an address of the older family
-- leave open.
theorem ofGroups_mapped {bits : BitVec 128} (mapped : isMapped bits = true) :
    ofGroups (List.replicate 5 0 ++ 65535 :: pairOf (bits.truncate 32)) = bits := by
  have front : bits.toNat / 4294967296 = 65535 := beq_iff_eq.mp mapped
  have low : (bits.truncate 32).toNat = bits.toNat % 4294967296 := BitVec.toNat_setWidth ..
  have value : ofDigits 65536 (List.replicate 5 0 ++ 65535 :: pairOf (bits.truncate 32)) =
      bits.toNat := by
    simp only [pairOf,low,ofDigits,List.replicate,List.cons_append,List.nil_append,List.foldl_cons,
      List.foldl_nil]
    omega
  rw [ofGroups,value,BitVec.ofNat_toNat,BitVec.setWidth_eq]

theorem group_ffff {rest : List Char} (ends : Ends isHexDigit rest) :
    group ('f' :: 'f' :: 'f' :: 'f' :: rest) = some (65535,rest) := by
  have digits : Nat.toDigits 16 65535 = ['f','f','f','f'] := by decide
  have read := group_toDigits (by decide : 65535 < 65536) ends
  rwa [digits] at read

theorem readV6_mapped (low : BitVec 32) :
    readV6 (':' :: ':' :: 'f' :: 'f' :: 'f' :: 'f' :: ':' :: dotted low) =
      some (ofGroups (List.replicate 5 0 ++ 65535 :: pairOf low),[]) := by
  have octets := readV4_dotted low (ends_nil _)
  rw [List.append_nil] at octets
  have last : readGroups 6 false (':' :: dotted low) = ⟨pairOf low,true,[]⟩ := by
    simp [readGroups,exactly,octets]
  have back := (readGroups_group 6 (readV4_ends (ends_cons (by decide)))
    (group_ffff (ends_cons (by decide) : Ends isHexDigit (':' :: dotted low)))).1
  rw [last] at back
  have front := (readGroups_none 7 (readV4_ends (ends_cons (by decide)))
    (ends_cons (by decide) :
      Ends isHexDigit (':' :: ':' :: 'f' :: 'f' :: 'f' :: 'f' :: ':' :: dotted low))).1
  simp [readV6,front,exactly,back,pairOf]

theorem mapped_text {bits : BitVec 128} (mapped : isMapped bits = true) :
    text (.v6 bits) =
      ':' :: ':' :: 'f' :: 'f' :: 'f' :: 'f' :: ':' :: dotted (bits.truncate 32) := by
  rw [text,if_pos mapped]
  rfl

theorem readV6_text (bits : BitVec 128) : readV6 (text (.v6 bits)) = some (bits,[]) := by
  by_cases mapped : isMapped bits = true
  · rw [mapped_text mapped,readV6_mapped,ofGroups_mapped mapped]
  · rw [text,if_neg mapped,compressed]
    split
    · rename_i start length found
      exact readV6_gap (zeroRun?_gap (length_digitsOf 65536 8 bits.toNat) found)
    · exact readV6_colonned

theorem mem_compressed {digits : List Nat} {c : Char} (member : c ∈ compressed digits) :
    c = ':' ∨ isHexDigit c = true := by
  unfold compressed at member
  split at member
  · rcases List.mem_append.mp member with front | back
    · rcases List.mem_append.mp front with first | mark
      · exact mem_colonned first
      · exact .inl (by simpa using mark)
    · exact mem_colonned back
  · exact mem_colonned member

-- No text of the newer family is taken for one of the older.
theorem readV4_text (bits : BitVec 128) : readV4 (text (.v6 bits)) = none := by
  by_cases mapped : isMapped bits = true
  · rw [mapped_text mapped]
    exact readV4_ends (ends_cons (by decide))
  · rw [text,if_neg mapped]
    exact readV4_dotless fun member => not_dot (mem_compressed member) rfl

theorem ofText?_text (address : IpAddress) : ofText? address.text = some address := by
  cases address with
  | v4 bits =>
      have octets := readV4_dotted bits (ends_nil _)
      rw [List.append_nil] at octets
      simp [ofText?,read,text,octets]
  | v6 bits => simp [ofText?,read,readV6_text,readV4_text]

theorem trim_text (address : IpAddress) : trim address.text = address.text :=
  trim_of_ofText? (ofText?_text address)

end HttpLayers.Net.IpAddress
