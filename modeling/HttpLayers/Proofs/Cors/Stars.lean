import HttpLayers.Proofs.Cors.Origin

namespace HttpLayers.Cors

open Http FieldValue Text

def starlessIn (entries : List String) : List String :=
  entries.filter fun entry => trim entry.toList ≠ ['*']

theorem starlessIn_getD (entries : Option (List String)) :
    (entries.map (·.filter fun entry => !isStar entry)).getD [] = starlessIn (entries.getD []) := by
  have same : ∀ entry, (!isStar entry) = decide (trim entry.toList ≠ ['*']) := by
    intro entry
    rw [isStar,Bool.eq_iff_iff]
    simp
  cases entries with
  | none => rfl
  | some listed => simp [starlessIn,same]

theorem starlessIn_eq {entries : Option (List String)} (starless : ¬Starred entries) :
    starlessIn (entries.getD []) = entries.getD [] := by
  refine List.filter_eq_self.mpr fun entry listed => ?_
  exact decide_eq_true fun starred => starless ⟨entry,listed,starred⟩

theorem star_mem_of_join {values : List FieldValue} (shown : join values = star) :
    star ∈ values := by
  have bytes : (Bytes.ofString ",").intercalate (values.map (·.bytes)) = star.bytes :=
    congrArg FieldValue.bytes shown
  match values,bytes with
  | [],bytes => exact absurd bytes (by decide)
  | [value],bytes =>
      rw [List.map_singleton,List.intercalate_singleton] at bytes
      exact List.mem_singleton.mpr (FieldValue.ext bytes.symm)
  | value :: next :: rest,bytes =>
      rw [List.map_cons,List.map_cons,List.intercalate_cons_cons] at bytes
      have comma : (44 : UInt8) ∈ star.bytes := by
        rw [← bytes]
        simp [show Bytes.ofString "," = [44] by decide]
      exact absurd comma (by decide)

theorem starred_of_mem {read : String → Option FieldValue} {entries : Option (List String)}
    (reads : ∀ entry, read entry = some star → trim entry.toList = ['*'])
    (member : star ∈ readAll read entries) : Starred entries := by
  obtain ⟨entry,listed,found⟩ := List.mem_filterMap.mp member
  exact ⟨entry,listed,reads entry found⟩

theorem trim_of_bytes {entry : String} (bytes : star.bytes = Bytes.ofString entry) :
    trim entry.toList = ['*'] := by
  cases Bytes.ofString_inj.mp bytes
  decide

theorem origin_star {entry : String} (read : FieldValue.ofString? entry = some star) :
    trim entry.toList = ['*'] :=
  trim_of_bytes (ofString?_eq_some_iff.mp read)

theorem method_star {entry : String} (read : method? entry = some star) :
    trim entry.toList = ['*'] := by
  unfold method? at read
  split at read
  · exact trim_of_bytes (congrArg FieldValue.bytes (Option.some.inj read)).symm
  · cases read

theorem headerName_star {entry : String} (read : headerName? entry = some star) :
    trim entry.toList = ['*'] := by
  obtain ⟨name,named,bytes⟩ := Option.map_eq_some_iff.mp read
  obtain ⟨_,_,text⟩ := FieldName.ofText?_eq_some_iff.mp named
  have written : Bytes.ofString name.text = Bytes.ofString "*" := congrArg FieldValue.bytes bytes
  have lowered : lower (trim entry.toList) = ['*'] :=
    String.ofList_inj.mp (text.symm.trans (Bytes.ofString_inj.mp written))
  obtain ⟨c,whole,folded⟩ := List.map_eq_singleton_iff.mp lowered
  rw [whole,eq_of_toLower folded (by decide)]

theorem ruleOf_only {policy : Cors} {read : String → Option FieldValue}
    {entries : Option (List String)} {values : List FieldValue}
    (reads : ∀ entry, read entry = some star → trim entry.toList = ['*'])
    (made : policy.ruleOf read entries = .only values) : star ∉ values := by
  unfold ruleOf at made
  by_cases starred : Starred entries
  · rw [if_pos (hasStar_iff.mpr starred)] at made
    split at made <;> cases made
  · rw [if_neg (mt hasStar_iff.mp starred)] at made
    cases made
    exact mt (starred_of_mem reads) starred

-- A rule from which no star comes but the one that a request has asked for.
structure Tame (rule : Rule) : Prop where
  bounded : rule ≠ .any
  starless : ∀ values, rule = .only values → star ∉ values

theorem ruleOf_tame {policy : Cors} {read : String → Option FieldValue}
    {entries : Option (List String)} (credentials : policy.allowCredentials = true)
    (reads : ∀ entry, read entry = some star → trim entry.toList = ['*']) :
    Tame (policy.ruleOf read entries) := by
  refine ⟨?_,fun values => ruleOf_only reads⟩
  unfold ruleOf
  rw [credentials]
  split <;> nofun

theorem exposedRule_tame {policy : Cors} (credentials : policy.allowCredentials = true) :
    Tame policy.exposedRule := by
  unfold exposedRule
  simp only [credentials,Bool.not_true,Bool.and_false,Bool.false_eq_true,if_false]
  refine ⟨nofun,?_⟩
  rintro values ⟨⟩ member
  obtain ⟨entry,kept,starred⟩ := starred_of_mem (fun _ => headerName_star) member
  rw [starlessIn_getD] at kept
  exact of_decide_eq_true (List.mem_filter.mp kept).2 starred

theorem Tame.asked {rule : Rule} (tame : Tame rule) {asked : Option FieldValue}
    (shown : rule.listValue asked = some star) : asked = some star := by
  cases rule with
  | any => exact absurd rfl tame.bounded
  | echoed => exact shown
  | only values =>
      cases values with
      | nil => cases shown
      | cons value rest =>
          exact absurd (star_mem_of_join (Option.some.inj shown)) (tame.starless _ rfl)

theorem Tame.carried {rule : Rule} (tame : Tame rule) {asked : Option FieldValue} {b : Bool}
    (member : star ∈ (if b = true then rule.listValue asked else none).toList) :
    asked = some star := by
  cases b with
  | true => exact tame.asked (Option.mem_toList.mp member)
  | false => cases member

theorem Tame.sent {rule : Rule} (tame : Tame rule) {sent : Option FieldValue}
    (shown : rule.originValue sent = some star) : sent = some star := by
  cases rule with
  | any => exact absurd rfl tame.bounded
  | echoed => exact shown
  | only values => exact (Option.filter_eq_some_iff.mp shown).1

def rules (policy : Cors) : List Rule :=
  [policy.originRule,policy.methodRule,policy.headerRule,policy.exposedRule]

theorem rules_tame {policy : Cors} (credentials : policy.allowCredentials = true) :
    ∀ rule ∈ policy.rules, Tame rule := by
  simp only [rules,List.mem_cons,List.not_mem_nil,or_false]
  rintro rule (rfl | rfl | rfl | rfl)
  · exact ruleOf_tame credentials fun _ => origin_star
  · exact ruleOf_tame credentials fun _ => method_star
  · exact ruleOf_tame credentials fun _ => headerName_star
  · exact exposedRule_tame credentials

-- A rule shows a star before any request has asked for one.
def Rule.isWildcard (rule : Rule) : Bool :=
  rule.listValue none == some star

theorem Tame.not_wildcard {rule : Rule} (tame : Tame rule) : rule.isWildcard = false := by
  refine beq_eq_false_iff_ne.mpr fun shown => ?_
  cases tame.asked shown

end HttpLayers.Cors
