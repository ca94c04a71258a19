import HttpLayers.Proofs.Address.Suffix
import HttpLayers.Proofs.Client.Sources

-- A node is an address, between brackets where it is of the newer family, and maybe a port behind it.
-- The brackets part the address from the port; without them the port stays with the address.

namespace HttpLayers.ClientLocator

open Http Net Text

-- Any token may stand for a port, so that a hidden one counts as well.
def IsPort (port : List Char) : Prop :=
  port = [] ∨ ∃ token, port = ':' :: token ∧ isToken token = true

def node : IpAddress → List Char → List Char → List Char
  | .v4 _,text,port => text ++ port
  | .v6 _,text,port => '[' :: (text ++ ']' :: port)

-- Only octets alone are a token, which can stand without quotes.
inductive Written (address : IpAddress) (text port : List Char) : List Char → Prop where
  | bare {bits : BitVec 32} (older : address = .v4 bits) (portless : port = []) :
      Written address text port text
  | quoted : Written address text port ('"' :: (node address text port ++ ['"']))

-- After a value: the end, or white space and a mark behind which anything may follow.
inductive Ended : List Char → Prop where
  | finished {gap : List Char} (blank : ∀ c ∈ gap, c = ' ' ∨ c = '\t') : Ended gap
  | parameters {gap more : List Char} (blank : ∀ c ∈ gap, c = ' ' ∨ c = '\t') :
      Ended (gap ++ ';' :: more)
  | elements {gap more : List Char} (blank : ∀ c ∈ gap, c = ' ' ∨ c = '\t') :
      Ended (gap ++ ',' :: more)

-- The value stands behind the first `for` of the first element.
inductive Carries (value : List Char) : List Char → Prop where
  | here {name rest : List Char} (isName : isToken name = true)
      (named : lower name = "for".toList) (ended : Ended rest) :
      Carries value (name ++ '=' :: value ++ rest)
  | behind {name plain rest : List Char} (isName : isToken name = true)
      (other : lower name ≠ "for".toList) (isPlain : isToken plain = true)
      (next : Carries value rest) : Carries value (name ++ '=' :: plain ++ ';' :: rest)

variable {name part rest text port value : List Char} {address : IpAddress}

def firstFor? (text : List Char) : Option (List Char) :=
  ((before ',' text).splitOn ';').findSome? forParameter?

theorem firstFor?_last (opens : Opens ',' part text) (apart : ';' ∉ part) :
    firstFor? text = forParameter? part := by
  rw [firstFor?,before_eq_iff.mpr opens,List.splitOn_eq_singleton apart,List.findSome?_singleton]

theorem firstFor?_cons (comma : ',' ∉ part) (apart : ';' ∉ part) :
    firstFor? (part ++ ';' :: rest) = (forParameter? part).or (firstFor? rest) := by
  have mark : before ',' (';' :: rest) = ';' :: before ',' rest := by simp [before]
  rw [firstFor?,before_append comma,mark,List.splitOn_append_cons_self_of_not_mem apart,
    List.findSome?_cons,firstFor?]
  cases forParameter? part <;> rfl

theorem forParameter?_named (isName : isToken name = true) :
    forParameter? (name ++ '=' :: value) =
      if lower name = "for".toList then some value else none := by
  have small : lower "for".toList = "for".toList := by decide
  have cut : splitOnce '=' (name ++ '=' :: value) = some (name,value) :=
    splitOnce_eq_some_iff.mpr ⟨rfl,not_mem_token isName (by decide)⟩
  have trimmed : trim name = name := strip_of_bare (.of_all fun c member =>
    not_blank_of_visible (isTokenChar_visible (mem_token isName member)))
  rw [forParameter?,cut,Option.bind_eq_bind,Option.bind_some]
  simp only [trimmed,sameFolded_iff,small]

theorem not_mem_gap {gap : List Char} (blank : ∀ c ∈ gap, c = ' ' ∨ c = '\t') {c : Char}
    (outside : c ∉ part) (visible : c ≠ ' ' ∧ c ≠ '\t') : c ∉ part ++ gap := by
  rw [List.mem_append,not_or]
  exact ⟨outside,IsGap.not_mem blank visible⟩

-- White space behind the value comes along; it is taken off afterwards.
theorem Ended.firstFor (ended : Ended rest) (comma : ',' ∉ part) (semicolon : ';' ∉ part)
    (read : ∀ gap, forParameter? (part ++ gap) = some (value ++ gap)) :
    ∃ gap, (∀ c ∈ gap, c = ' ' ∨ c = '\t') ∧ firstFor? (part ++ rest) = some (value ++ gap) := by
  cases ended with
  | finished blank =>
      refine ⟨rest,blank,?_⟩
      rw [firstFor?_last (.whole (not_mem_gap blank comma (by decide)))
        (not_mem_gap blank semicolon (by decide)),read]
  | @parameters gap more blank =>
      refine ⟨gap,blank,?_⟩
      rw [← List.append_assoc,firstFor?_cons (not_mem_gap blank comma (by decide))
        (not_mem_gap blank semicolon (by decide)),read,Option.some_or]
  | @elements gap more blank =>
      refine ⟨gap,blank,?_⟩
      rw [← List.append_assoc,firstFor?_last (.cut (not_mem_gap blank comma (by decide)))
        (not_mem_gap blank semicolon (by decide)),read]

theorem not_mem_parameter {c : Char} (isName : isToken name = true) (outside : isTokenChar c = false)
    (equals : c ≠ '=') (absent : c ∉ value) : c ∉ name ++ '=' :: value := by
  simp [not_mem_token isName outside,equals,absent]

theorem Carries.firstFor (carries : Carries value text) (comma : ',' ∉ value)
    (semicolon : ';' ∉ value) :
    ∃ gap, (∀ c ∈ gap, c = ' ' ∨ c = '\t') ∧ firstFor? text = some (value ++ gap) := by
  induction carries with
  | here isName named ended =>
      apply ended.firstFor (not_mem_parameter isName (by decide) (by decide) comma)
        (not_mem_parameter isName (by decide) (by decide) semicolon)
      intro gap
      rw [List.append_assoc,List.cons_append,forParameter?_named isName,if_pos named]
  | behind isName other isPlain _ ih =>
      have commas := not_mem_parameter isName (by decide) (by decide)
        (not_mem_token isPlain (by decide : isTokenChar ',' = false))
      have semicolons := not_mem_parameter isName (by decide) (by decide)
        (not_mem_token isPlain (by decide : isTokenChar ';' = false))
      rw [firstFor?_cons commas semicolons,forParameter?_named isName,if_neg other,Option.none_or]
      exact ih

theorem tokenChar_of_address {c : Char} (kind : IsAddressChar c) :
    c = ':' ∨ isTokenChar c = true := by
  rcases kind with dot | colon | digit
  · rw [dot]
    exact .inr (by decide)
  · exact .inl colon
  · right
    rw [Reader.isHexDigit_iff] at digit
    rw [isTokenChar,Bool.or_eq_true,isAlphanum_iff]
    left
    omega

-- Characters that are part of no address and no port.
def Apart (c : Char) : Prop := c ≠ ':' ∧ isTokenChar c = false

instance (c : Char) : Decidable (Apart c) :=
  inferInstanceAs (Decidable (_ ∧ _))

theorem not_mem_address (spelled : IpAddress.ofText? text = some address) {c : Char}
    (apart : Apart c) : c ∉ text := by
  intro member
  rcases tokenChar_of_address (IpAddress.mem_ofText? spelled c member) with colon | inside
  · exact apart.1 colon
  · rw [apart.2] at inside
    cases inside

theorem IsPort.not_mem (isPort : IsPort port) {c : Char} (apart : Apart c) : c ∉ port := by
  rcases isPort with nothing | ⟨token,written,isToken⟩
  · rw [nothing]
    exact List.not_mem_nil
  · rw [written,List.mem_cons,not_or]
    exact ⟨apart.1,not_mem_token isToken apart.2⟩

theorem IsPort.visible (isPort : IsPort port) : ∀ c ∈ port, isBlank c = false := by
  intro c member
  apply not_blank_of_visible
  rcases isPort with nothing | ⟨token,written,isToken⟩
  · rw [nothing] at member
    cases member
  · rw [written] at member
    rcases List.mem_cons.mp member with colon | inside
    · rw [colon]
      decide
    · exact isTokenChar_visible (mem_token isToken inside)

-- What is left of a node: the port is taken off only where the brackets part it.
def shown : IpAddress → List Char → List Char → List Char
  | .v4 _,text,port => text ++ port
  | .v6 _,text,_ => text

theorem shown_eq_iff : shown address text port = text ↔ address.width = 128 ∨ port = [] := by
  cases address with
  | v4 bits => simp [shown,IpAddress.width]
  | v6 bits => simp [shown,IpAddress.width]

section

variable (spelled : IpAddress.ofText? text = some address)

include spelled

theorem Written.trim_gap (written : Written address text port value) {gap : List Char}
    (blank : ∀ c ∈ gap, c = ' ' ∨ c = '\t') : trim (value ++ gap) = value := by
  have bare : Bare isBlank value := by
    cases written with
    | bare =>
        rw [← IpAddress.trim_of_ofText? spelled]
        exact strip_bare text
    | quoted => exact .enclosed (by decide) (by decide) _
  exact strip_eq_iff.mpr ⟨[],gap,by simp,by simp,IsGap.blank blank,bare⟩

theorem designated : Unbracketed (shown address text port) (node address text port) ∧
    shown address text port ≠ [] := by
  have bracket : '[' ∉ text := not_mem_address spelled (by decide)
  obtain ⟨c,rest,cut⟩ := List.exists_cons_of_ne_nil (IpAddress.ne_nil_of_ofText? spelled)
  cases address with
  | v4 bits =>
      refine ⟨.plain ?_,by simp [shown,cut]⟩
      rw [shown,cut,List.cons_append,List.head?_cons]
      intro first
      rw [cut,Option.some.inj first] at bracket
      exact bracket List.mem_cons_self
  | v6 bits =>
      refine ⟨.enclosed (.cut (not_mem_address spelled (by decide))),?_⟩
      rw [shown,cut]
      exact List.cons_ne_nil c rest

variable (isPort : IsPort port)

include isPort

theorem not_mem_node {c : Char} (apart : Apart c) (bracket : c ≠ '[' ∧ c ≠ ']') :
    c ∉ node address text port := by
  have first := not_mem_address spelled apart
  have second := isPort.not_mem apart
  cases address with
  | v4 bits => simp [node,first,second]
  | v6 bits => simp [node,first,second,bracket]

theorem Written.not_mem (written : Written address text port value) {c : Char} (apart : Apart c)
    (mark : c ≠ '[' ∧ c ≠ ']' ∧ c ≠ '"') : c ∉ value := by
  have inside := not_mem_node spelled isPort apart ⟨mark.1,mark.2.1⟩
  cases written with
  | bare => exact not_mem_address spelled apart
  | quoted => simp [inside,mark]

theorem Written.unquoted (written : Written address text port value) :
    strip (· == '"') value = node address text port := by
  have inside : '"' ∉ node address text port := not_mem_node spelled isPort (by decide) (by decide)
  have bare : Bare (· == '"') (node address text port) := .of_not_mem inside
  cases written with
  | bare older portless =>
      have whole : node address text port = text := by rw [older,node,portless,List.append_nil]
      rw [whole] at bare ⊢
      exact strip_of_bare bare
  | quoted => exact strip_eq_iff.mpr ⟨['"'],['"'],by simp,by simp,by simp,bare⟩

theorem Carries.node {header : List Char} (carries : Carries value header)
    (written : Written address text port value) :
    forwardedNode? header = some (shown address text port) := by
  have comma := written.not_mem spelled isPort (by decide : Apart ',') (by decide)
  have semicolon := written.not_mem spelled isPort (by decide : Apart ';') (by decide)
  obtain ⟨gap,blank,first⟩ := carries.firstFor comma semicolon
  rw [forwardedNode?,Option.bind_eq_bind,Option.bind_eq_some_iff]
  refine ⟨value ++ gap,first,unwrapped_iff.mpr ?_⟩
  rw [written.trim_gap spelled blank,written.unquoted spelled isPort]
  exact designated spelled

theorem trim_shown : trim (shown address text port) = shown address text port := by
  have visible := IpAddress.mem_ofText? spelled
  cases address with
  | v4 bits =>
      apply strip_of_bare
      apply Bare.of_all
      intro c member
      rcases List.mem_append.mp member with first | second
      · exact not_blank_of_visible (visible c first).visible
      · exact isPort.visible c second
  | v6 bits => exact IpAddress.trim_of_ofText? spelled

theorem ofText?_shown : IpAddress.ofText? (shown address text port) =
    if address.width = 128 ∨ port = [] then some address else none := by
  cases address with
  | v4 bits =>
      rcases isPort with nothing | ⟨token,written,_⟩
      · rw [shown,nothing,List.append_nil,spelled,if_pos (.inr rfl)]
      · have kept : ¬((IpAddress.v4 bits).width = 128 ∨ port = []) := by
          simp [IpAddress.width,written]
        rw [shown,if_neg kept,written,IpAddress.ofText?_more spelled (by decide)]
  | v6 bits => rw [shown,spelled,if_pos (.inl rfl)]


end

theorem node_located_exactly {request : Request} {header : List Char}
    (above : ∀ name ∈ ranked, name ≠ .of "forwarded" → ∀ client, ¬Names request name client)
    (told : Tells request (.of "forwarded") header) (carries : Carries value header)
    (written : Written address text port value)
    (spelled : IpAddress.ofText? text = some address) (isPort : IsPort port) :
    standard request = String.ofList (shown address text port) ∧
    (shown address text port = text ↔ address.width = 128 ∨ port = []) ∧
    (IpAddress.ofText? (standard request).toList = some address ↔
      address.width = 128 ∨ port = []) ∧
    ∀ (policy : RealIp) entries, policy.trustedProxies = some entries →
      (policy.trusts (standard request) = true ↔
        (address.width = 128 ∨ port = []) ∧ ∃ entry ∈ entries, RealIp.Covers entry address) := by
  have names : Names request (.of "forwarded") (shown address text port) := by
    obtain ⟨_,first,designates⟩ := forwardedNode?_iff.mp (carries.node spelled isPort written)
    exact .node told first designates
  have located : standard request = String.ofList (shown address text port) := by
    rw [standard_exact]
    exact .passed (above _ (by decide) (by decide)) (.passed (above _ (by decide) (by decide))
      (.passed (above _ (by decide) (by decide)) (.named names)))
  have read : IpAddress.ofText? (standard request).toList =
      if address.width = 128 ∨ port = [] then some address else none := by
    rw [located,String.toList_ofList,ofText?_shown spelled isPort]
  have trimmed : trim (standard request).toList = (standard request).toList := by
    rw [located,String.toList_ofList,trim_shown spelled isPort]
  refine ⟨located,shown_eq_iff,?_,?_⟩
  · rw [read,Option.ite_none_right_eq_some]
    exact and_iff_left rfl
  · intro policy entries configured
    have same : policy.listing entries = policy := by rw [RealIp.listing,← configured]
    rw [← same,RealIp.listing_trusts,trimmed,read]
    simp only [Option.ite_none_right_eq_some,Option.some.injEq,and_assoc,exists_and_left,
      exists_eq_left']

-- A blank header above says nothing, and a later element is not looked at.
def bracketed : Request where
  headers := ⟨[(.of "x-forwarded-for",.of " \t"),
    (.of "forwarded",.of "proto=https;For=\"[2001:db8::1]:4711\" , for=10.0.0.1")]⟩

theorem bracketed_located :
    (∀ name ∈ ranked, name ≠ .of "forwarded" → ∀ client, ¬Names bracketed name client) ∧
    standard bracketed = "2001:db8::1" ∧
    IpAddress.ofText? "2001:db8::1".toList = some (.v6 0x20010db8000000000000000000000001) := by
  have above : ∀ name ∈ ranked, name ≠ .of "forwarded" → ∀ client, ¬Names bracketed name client := by
    simp only [← silent_iff]
    decide
  have told : Tells bracketed (.of "forwarded")
      "proto=https;For=\"[2001:db8::1]:4711\" , for=10.0.0.1".toList := header?_exact.mp (by decide)
  have ended : Ended " , for=10.0.0.1".toList :=
    .elements (by simp : ∀ c ∈ [' '], c = ' ' ∨ c = '\t')
  have carries : Carries "\"[2001:db8::1]:4711\"".toList
      "proto=https;For=\"[2001:db8::1]:4711\" , for=10.0.0.1".toList :=
    .behind (by decide : isToken "proto".toList = true) (by decide)
      (by decide : isToken "https".toList = true)
      (.here (by decide : isToken "For".toList = true) (by decide) ended)
  have spelled : IpAddress.ofText? "2001:db8::1".toList =
      some (.v6 0x20010db8000000000000000000000001) := by decide
  have port : IsPort ":4711".toList := .inr ⟨"4711".toList,rfl,by decide⟩
  exact ⟨above,(node_located_exactly above told carries .quoted spelled port).1,spelled⟩

def unbracketed : Request where
  headers := ⟨[(.of "forwarded",.of "for=\"192.0.2.60:8080\"")]⟩

def everywhere : RealIp where
  trustedProxies := some ["0.0.0.0/0"]

theorem unbracketed_port_kept :
    (∀ name ∈ ranked, name ≠ .of "forwarded" → ∀ client, ¬Names unbracketed name client) ∧
    Tells unbracketed (.of "forwarded") "for=\"192.0.2.60:8080\"".toList ∧
    Carries "\"192.0.2.60:8080\"".toList "for=\"192.0.2.60:8080\"".toList ∧
    Written (.v4 0xc000023c) "192.0.2.60".toList ":8080".toList "\"192.0.2.60:8080\"".toList ∧
    IpAddress.ofText? "192.0.2.60".toList = some (.v4 0xc000023c) ∧
    standard unbracketed = "192.0.2.60:8080" ∧
    IpAddress.ofText? "192.0.2.60:8080".toList = none ∧
    everywhere.trusts "192.0.2.60" = true ∧ everywhere.trusts (standard unbracketed) = false := by
  have above : ∀ name ∈ ranked, name ≠ .of "forwarded" → ∀ client, ¬Names unbracketed name client := by
    simp only [← silent_iff]
    decide
  have carries : Carries "\"192.0.2.60:8080\"".toList "for=\"192.0.2.60:8080\"".toList :=
    .here (by decide : isToken "for".toList = true) (by decide) (.finished (by simp))
  exact ⟨above,header?_exact.mp (by decide),carries,.quoted,by decide,by decide,by decide,by decide,
    by decide⟩

end HttpLayers.ClientLocator
