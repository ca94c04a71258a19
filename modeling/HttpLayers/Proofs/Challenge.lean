import HttpLayers.Proofs.Gate
import Mathlib.Data.List.Induction

-- The realm stands between two double quotes. A double quote in it is replaced, so nothing can end the
-- parameter early. A backslash is not: behind an odd number of them the closing quote is escaped too.

namespace HttpLayers.Http

open FieldValue

-- A backslash takes the byte after it, whatever it is, as it stands.
inductive QuotedBody : Bytes → Prop where
  | nil : QuotedBody []
  | plain {b : UInt8} {rest : Bytes} (legal : isLegalByte b = true) (other : b ≠ 34 ∧ b ≠ 92)
      (more : QuotedBody rest) : QuotedBody (b :: rest)
  | pair {b : UInt8} {rest : Bytes} (legal : isLegalByte b = true) (more : QuotedBody rest) :
      QuotedBody (92 :: b :: rest)

def QuotedString (s : Bytes) : Prop := ∃ body, s = 34 :: body ++ [34] ∧ QuotedBody body

-- Whether the next byte is escaped.
def escapes (escaped : Bool) (b : UInt8) : Bool := !escaped && b == 92

theorem escapes_plain {b : UInt8} (other : b ≠ 92) (escaped : Bool) : escapes escaped b = false := by
  simp [escapes,other]

theorem QuotedBody.unescaped {body : Bytes} (quoted : QuotedBody body) :
    body.foldl escapes false = false := by
  induction quoted with
  | nil => rfl
  | plain _ other _ ih => rwa [List.foldl_cons,escapes_plain other.2]
  | pair _ _ ih => exact ih

-- A reader that stands behind a backslash is looked at together with it.
theorem QuotedBody.of_unescaped {body : Bytes} (legal : ∀ b ∈ body, isLegalByte b = true)
    (unquoted : 34 ∉ body) :
    (body.foldl escapes false = false → QuotedBody body) ∧
      (body.foldl escapes true = false → QuotedBody (92 :: body)) := by
  induction body with
  | nil => exact ⟨fun _ => .nil,nofun⟩
  | cons b rest ih =>
      obtain ⟨first,legal⟩ := List.forall_mem_cons.mp legal
      rw [List.mem_cons,not_or] at unquoted
      obtain ⟨other,unquoted⟩ := unquoted
      obtain ⟨outside,behind⟩ := ih legal unquoted
      refine ⟨?_,fun ended => .pair first (outside ended)⟩
      intro ended
      by_cases backslash : b = 92
      · subst backslash
        exact behind ended
      · rw [List.foldl_cons,escapes_plain backslash] at ended
        exact .plain first ⟨Ne.symm other,backslash⟩ (outside ended)

theorem quotedString_iff {body : Bytes} (legal : ∀ b ∈ body, isLegalByte b = true)
    (unquoted : 34 ∉ body) :
    QuotedString (34 :: body ++ [34]) ↔ body.foldl escapes false = false := by
  constructor
  · intro quoted
    obtain ⟨inner,same,quoted⟩ := quoted
    have equal : body = inner := by simpa using same
    subst equal
    exact quoted.unescaped
  · intro ended
    exact ⟨body,rfl,(QuotedBody.of_unescaped legal unquoted).1 ended⟩

-- Where only the last byte can close, whatever closes is the whole.
theorem QuotedString.whole {body front rest : Bytes} (unquoted : 34 ∉ body)
    (cut : 34 :: body ++ [34] = front ++ rest) (quoted : QuotedString front) : rest = [] := by
  obtain ⟨inner,rfl,_⟩ := quoted
  have same : body ++ [34] = inner ++ 34 :: rest := by simpa using cut
  rcases List.append_eq_append_iff.mp same with ⟨more,_,tail⟩ | ⟨more,longer,tail⟩
  · cases more with
    | nil => cases tail; rfl
    | cons b more => simp at tail
  · cases more with
    | nil => cases tail; rfl
    | cons b more =>
        cases tail
        exact absurd (by simp [longer]) unquoted

end HttpLayers.Http

namespace HttpLayers.BasicAuth

open Http FieldValue

def enclosed (realm : String) : Bytes :=
  34 :: Bytes.ofString (realmText realm) ++ [34]

-- How many backslashes a text ends with.
def backslashes (s : List Char) : Nat :=
  (s.reverse.takeWhile (· == '\\')).length

theorem backslashes_concat (s : List Char) (c : Char) :
    backslashes (s ++ [c]) = if c = '\\' then backslashes s + 1 else 0 := by
  by_cases slash : c = '\\'
  · simp [backslashes,slash]
  · simp [backslashes,slash]

theorem escapes_other {bytes : Bytes} (other : ∀ b ∈ bytes, b ≠ 92) (present : bytes ≠ [])
    (escaped : Bool) : bytes.foldl escapes escaped = false := by
  induction bytes generalizing escaped with
  | nil => exact absurd rfl present
  | cons b rest ih =>
      obtain ⟨first,other⟩ := List.forall_mem_cons.mp other
      rw [List.foldl_cons,escapes_plain first]
      by_cases last : rest = []
      · rw [last,List.foldl_nil]
      · exact ih other last false

theorem escapes_encoded (escaped : Bool) (c : Char) :
    (String.utf8EncodeChar c).foldl escapes escaped = (!escaped && c == '\\') := by
  by_cases ascii : c.toNat < 128
  · have finite : ∀ n < 128, (UInt8.ofNat n == 92) = (Char.ofNat n == '\\') := by decide
    have same := finite c.toNat ascii
    rw [Char.ofNat_toNat] at same
    simp only [Bytes.utf8EncodeChar_ascii ascii,List.foldl_cons,List.foldl_nil,escapes,same]
  · have other : ∀ b ∈ String.utf8EncodeChar c, b ≠ 92 := by
      intro b member slash
      subst slash
      rcases Bytes.utf8EncodeChar_bytes _ member with ⟨small,_⟩ | high
      · exact ascii small
      · exact absurd high (by decide)
    have slash : c ≠ '\\' := by
      intro slash
      exact ascii (by rw [slash]; decide)
    rw [escapes_other other String.utf8EncodeChar_ne_nil]
    simp [slash]

-- Followed from the end: one backslash more turns the answer round, and anything else settles it.
theorem escapes_ofString (s : String) :
    (Bytes.ofString s).foldl escapes false = false ↔ backslashes s.toList % 2 = 0 := by
  rw [Bytes.ofString_eq,List.foldl_flatMap]
  simp only [escapes_encoded]
  induction s.toList using List.reverseRecOn with
  | nil => simp [backslashes]
  | append_singleton rest c ih =>
      rw [List.foldl_append,List.foldl_cons,List.foldl_nil,backslashes_concat]
      by_cases slash : c = '\\'
      · rw [if_pos slash]
        cases ended : rest.foldl (fun escaped c => !escaped && c == '\\') false with
        | false =>
            have even := ih.mp ended
            simp [slash]
            omega
        | true =>
            have odd : ¬backslashes rest % 2 = 0 := by rw [← ih,ended]; decide
            simp
            omega
      · simp [slash]

theorem backslashes_realmText (realm : String) :
    backslashes (realmText realm).toList = backslashes realm.toList := by
  rw [realmText,String.toList_ofList,backslashes,← List.map_reverse,List.takeWhile_map,
    List.length_map,backslashes]
  congr 2
  funext c
  simp only [Function.comp_apply]
  split
  · rename_i quote
    rw [quote]
    decide
  · split
    · rename_i control
      have slash : c ≠ '\\' := by
        intro slash
        rw [slash] at control
        exact absurd control (by decide)
      simp [slash]
    · rfl

theorem quote_not_mem (realm : String) : 34 ∉ Bytes.ofString (realmText realm) := by
  intro member
  have quote : '"' ∈ (realmText realm).toList := Bytes.mem_ofString_ascii member (by decide)
  rw [realmText,String.toList_ofList] at quote
  obtain ⟨c,_,written⟩ := List.mem_map.mp quote
  split at written
  · exact absurd written (by decide)
  · rename_i other
    split at written
    · exact absurd written (by decide)
    · exact other written

theorem enclosed_iff {realm : String} :
    QuotedString (enclosed realm) ↔ backslashes realm.toList % 2 = 0 := by
  have legal : ∀ b ∈ Bytes.ofString (realmText realm), isLegalByte b = true := fun b member =>
    isLegalByte_of_clear (Bytes.ofString_clear (realmText_clear realm) b member)
  rw [enclosed,quotedString_iff legal (quote_not_mem realm),escapes_ofString,
    backslashes_realmText]

theorem values_unauthorized (realm : String) :
    ((unauthorized realm).headers.values (.of "www-authenticate")).map (·.bytes) =
      [Bytes.ofString "Basic realm=" ++ enclosed realm] := by
  have opening : Bytes.ofString "Basic realm=\"" = Bytes.ofString "Basic realm=" ++ [34] := by decide
  have closing : Bytes.ofString "\"" = [34] := by decide
  have written : Bytes.ofString (challenge realm) = Bytes.ofString "Basic realm=" ++ enclosed realm := by
    simp [challenge,enclosed,Bytes.ofString_append,opening,closing]
  rw [Headers.values_written,(unauthorized_exact realm).2,written]
  rfl

-- Without the closing quote no part of the value is a quoted-string, so what the parameter holds is open.
theorem realm_enclosed_exactly (realm : String) :
    ((unauthorized realm).headers.values (.of "www-authenticate")).map (·.bytes) =
        [Bytes.ofString "Basic realm=" ++ enclosed realm] ∧
      (∀ front rest, enclosed realm = front ++ rest → QuotedString front → rest = []) ∧
      (QuotedString (enclosed realm) ↔ backslashes realm.toList % 2 = 0) ∧
      (backslashes realm.toList % 2 ≠ 0 →
        ∀ front rest, enclosed realm = front ++ rest → ¬QuotedString front) := by
  have early : ∀ front rest, enclosed realm = front ++ rest → QuotedString front → rest = [] :=
    fun _ _ cut quoted => quoted.whole (quote_not_mem realm) cut
  refine ⟨values_unauthorized realm,early,enclosed_iff,?_⟩
  intro odd front rest cut quoted
  have nothing := early front rest cut quoted
  rw [nothing,List.append_nil] at cut
  exact odd (enclosed_iff.mp (cut ▸ quoted))

theorem trailing_backslash_open :
    ((unauthorized "a\\").headers.values (.of "www-authenticate")).map (·.bytes) =
        [Bytes.ofString "Basic realm=\"a\\\""] ∧
      ¬QuotedString (Bytes.ofString "\"a\\\"") := by
  have written : enclosed "a\\" = Bytes.ofString "\"a\\\"" := by decide
  refine ⟨?_,?_⟩
  · rw [values_unauthorized,written]
    decide
  · rw [← written,enclosed_iff]
    decide

end HttpLayers.BasicAuth
