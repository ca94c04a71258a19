import HttpLayers.Proofs.Client.Node

-- Four headers in a row and the connection behind them: the first that names a client decides, and
-- whatever stands behind it is never looked at.

namespace HttpLayers.ClientLocator

open Http Text

variable {request other : Request} {name : FieldName} {client : List Char}

-- What one header says on its own.
inductive Names (request : Request) : FieldName → List Char → Prop where
  | entry {name : FieldName} {text entry : List Char}
      (isList : name = .of "x-forwarded-for" ∨ name = .of "x-forwarded")
      (told : Tells request name text) (first : Opens ',' entry text)
      (present : trim entry ≠ []) : Names request name (trim entry)
  | whole {text : List Char} (told : Tells request (.of "x-real-ip") text) :
      Names request (.of "x-real-ip") text
  | node {text element node : List Char} (told : Tells request (.of "forwarded") text)
      (first : Opens ',' element text) (designates : Designates element node) :
      Names request (.of "forwarded") node

theorem Names.ne_nil (names : Names request name client) : client ≠ [] := by
  cases names with
  | entry _ _ _ present => exact present
  | whole told =>
      cases told with
      | text _ _ present => exact present
  | node _ _ designates => exact designates.present

def named? (request : Request) (name : FieldName) : Option (List Char) :=
  if name = .of "x-forwarded-for" ∨ name = .of "x-forwarded" then
    (header? request name).bind firstEntry?
  else if name = .of "x-real-ip" then header? request name
  else if name = .of "forwarded" then (header? request name).bind forwardedNode?
  else none

theorem named?_exact : named? request name = some client ↔ Names request name client := by
  unfold named?
  constructor
  · intro named
    split at named
    · rename_i isList
      obtain ⟨text,found,read⟩ := Option.bind_eq_some_iff.mp named
      obtain ⟨rfl,present⟩ := nonempty_eq_some_iff.mp read
      exact .entry isList (header?_exact.mp found) (opens_before ',' text) present
    · split at named
      · rename_i whole
        subst whole
        exact .whole (header?_exact.mp named)
      · split at named
        · rename_i node
          subst node
          obtain ⟨text,found,read⟩ := Option.bind_eq_some_iff.mp named
          obtain ⟨element,first,designates⟩ := forwardedNode?_iff.mp read
          exact .node (header?_exact.mp found) first designates
        · cases named
  · intro names
    cases names with
    | entry isList told first present =>
        rw [if_pos isList,header?_exact.mpr told,Option.bind_some]
        unfold firstEntry?
        rw [before_eq_iff.mpr first]
        exact nonempty_eq_some_iff.mpr ⟨rfl,present⟩
    | whole told =>
        rw [if_neg (by decide),if_pos rfl]
        exact header?_exact.mpr told
    | node told first designates =>
        rw [if_neg (by decide),if_neg (by decide),if_pos rfl,header?_exact.mpr told]
        exact forwardedNode?_iff.mpr ⟨_,first,designates⟩

def ranked : List FieldName :=
  [.of "x-forwarded-for",.of "x-real-ip",.of "x-forwarded",.of "forwarded"]

-- The connection is asked last, and nothing is said where there is none.
inductive Client (request : Request) : List FieldName → List Char → Prop where
  | named {name : FieldName} {others : List FieldName} {client : List Char}
      (names : Names request name client) : Client request (name :: others) client
  | passed {name : FieldName} {others : List FieldName} {client : List Char}
      (silent : ∀ client, ¬Names request name client) (next : Client request others client) :
      Client request (name :: others) client
  | peer {endpoint : Net.Endpoint} (connected : request.peer = some endpoint) :
      Client request [] endpoint.address.text
  | nobody (alone : request.peer = none) : Client request [] []

def peer? (request : Request) : Option (List Char) :=
  request.peer.map fun endpoint => endpoint.address.text

theorem sources_ranked (request : Request) :
    sources request = ranked.map (named? request) ++ [peer? request] := by
  simp +decide [sources,ranked,named?,peer?]

theorem silent_iff : named? request name = none ↔ ∀ client, ¬Names request name client := by
  rw [Option.eq_none_iff_forall_ne_some]
  simp only [ne_eq,named?_exact]

theorem peer_exact : (peer? request).getD [] = client ↔ Client request [] client := by
  cases connected : request.peer with
  | none =>
      rw [peer?,connected,Option.map_none,Option.getD_none]
      constructor
      · intro same
        cases same
        exact .nobody connected
      · intro client
        cases client with
        | peer also => rw [connected] at also; cases also
        | nobody => rfl
  | some endpoint =>
      rw [peer?,connected,Option.map_some,Option.getD_some]
      constructor
      · intro same
        cases same
        exact .peer connected
      · intro client
        cases client with
        | peer also => cases Option.some.inj (connected.symm.trans also); rfl
        | nobody alone => rw [connected] at alone; cases alone

theorem first_exact (names : List FieldName) :
    ((names.map (named? request) ++ [peer? request]).findSome? id).getD [] = client ↔
      Client request names client := by
  induction names with
  | nil =>
      rw [List.map_nil,List.nil_append,List.findSome?_singleton]
      exact peer_exact
  | cons name others ih =>
      rw [List.map_cons,List.cons_append,List.findSome?_cons]
      cases read : named? request name with
      | some found =>
          have names := named?_exact.mp read
          constructor
          · intro same
            cases same
            exact .named names
          · intro client
            cases client with
            | named also => exact Option.some.inj (read.symm.trans (named?_exact.mpr also))
            | passed silent => exact absurd names (silent found)
      | none =>
          have silent := silent_iff.mp read
          refine ih.trans ⟨.passed silent,?_⟩
          intro client
          cases client with
          | named names => exact absurd names (silent _)
          | passed _ next => exact next

theorem standard_exact : standard request = String.ofList client ↔ Client request ranked client := by
  rw [← first_exact,← sources_ranked,standard,String.ofList_inj]

theorem exists_client (request : Request) (names : List FieldName) :
    ∃ client, Client request names client :=
  ⟨_,(first_exact names).mp rfl⟩

theorem standard_congr
    (same : ∀ client, Client request ranked client → Client other ranked client) :
    standard other = standard request := by
  obtain ⟨client,located⟩ := exists_client request ranked
  rw [standard_exact.mpr located,standard_exact.mpr (same client located)]

-- Of a header only the first value is looked at.
theorem Tells.congr {text : List Char} (same : other.headers.get? name = request.headers.get? name)
    (told : Tells request name text) : Tells other name text := by
  cases told with
  | text first printable present => exact .text (same.trans first) printable present

theorem Names.congr (same : other.headers.get? name = request.headers.get? name)
    (names : Names request name client) : Names other name client := by
  cases names with
  | entry isList told first present => exact .entry isList (told.congr same) first present
  | whole told => exact .whole (told.congr same)
  | node told first designates => exact .node (told.congr same) first designates

theorem Client.kept {front back : List FieldName} {found : List Char}
    (names : Names request name found)
    (same : ∀ earlier ∈ front ++ [name],
      other.headers.get? earlier = request.headers.get? earlier)
    (located : Client request (front ++ name :: back) client) :
    Client other (front ++ name :: back) client := by
  induction front with
  | nil =>
      have equal := same name (by simp)
      cases located with
      | named also => exact .named (also.congr equal)
      | passed silent => exact absurd names (silent found)
  | cons earlier front ih =>
      have equal := same earlier (by simp)
      cases located with
      | named also => exact .named (also.congr equal)
      | passed silent next =>
          refine .passed ?_ (ih (fun name member => same name (List.mem_cons_of_mem _ member)) next)
          intro client also
          exact silent client (also.congr equal.symm)

def without (request : Request) (name : FieldName) : Request :=
  { request with headers := request.headers.erase name }

theorem without_silent (request : Request) (name : FieldName) (client : List Char) :
    ¬Names (without request name) name client := by
  have untold : ∀ text, ¬Tells (without request name) name text := by
    intro text told
    cases told with
    | text first =>
        rw [without,Headers.get?_erase,if_pos rfl] at first
        cases first
  intro names
  cases names with
  | entry _ told => exact untold _ told
  | whole told => exact untold _ told
  | node told => exact untold _ told

theorem without_get? {another : FieldName} (differs : name ≠ another) :
    (without request name).headers.get? another = request.headers.get? another := by
  rw [without,Headers.get?_erase,if_neg differs]

theorem Client.without {names : List FieldName} (unusable : ∀ client, ¬Names request name client)
    (located : Client request names client) :
    Client (without request name) names client := by
  induction located with
  | @named earlier _ client also =>
      have differs : name ≠ earlier := by
        intro same
        subst same
        exact unusable client also
      exact .named (also.congr (without_get? differs))
  | @passed earlier _ _ silent _ ih =>
      refine .passed ?_ ih
      intro client also
      by_cases same : name = earlier
      · subst same
        exact without_silent request name client also
      · exact silent client (also.congr (without_get? same).symm)
  | peer connected => exact .peer connected
  | nobody alone => exact .nobody alone

theorem Client.eq_nil_iff {names : List FieldName} (located : Client request names client) :
    client = [] ↔
      (∀ name ∈ names, ∀ client, ¬Names request name client) ∧ request.peer = none := by
  induction located with
  | named names =>
      constructor
      · intro nothing
        exact absurd nothing names.ne_nil
      · intro silent
        exact absurd names (silent.1 _ List.mem_cons_self _)
  | passed silent _ ih =>
      rw [ih,List.forall_mem_cons]
      exact ⟨fun nobody => ⟨⟨silent,nobody.1⟩,nobody.2⟩,fun nobody => ⟨nobody.1.2,nobody.2⟩⟩
  | @peer endpoint connected =>
      have present := Net.IpAddress.ne_nil_of_ofText? (Net.IpAddress.ofText?_text endpoint.address)
      simp [present,connected]
  | nobody alone => simp [alone]

theorem located_exactly (request : Request) :
    (∀ client, standard request = String.ofList client ↔ Client request ranked client) ∧
    (∀ other front name back client, ranked = front ++ name :: back →
      Names request name client →
      (∀ earlier ∈ front ++ [name],
        other.headers.get? earlier = request.headers.get? earlier) →
      standard other = standard request) ∧
    (∀ name, (∀ client, ¬Names request name client) →
      standard (without request name) = standard request) ∧
    (standard request = "" ↔
      (∀ name ∈ ranked, ∀ client, ¬Names request name client) ∧ request.peer = none) := by
  refine ⟨fun _ => standard_exact,?_,?_,?_⟩
  · intro other front name back client cut names same
    apply standard_congr
    intro client located
    rw [cut] at located ⊢
    exact located.kept names same
  · intro name unusable
    apply standard_congr
    intro client located
    exact located.without unusable
  · obtain ⟨client,located⟩ := exists_client request ranked
    have empty : "" = String.ofList [] := rfl
    rw [← located.eq_nil_iff,standard_exact.mpr located,empty,String.ofList_inj]

end HttpLayers.ClientLocator
