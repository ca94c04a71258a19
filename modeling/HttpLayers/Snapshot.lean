import HttpLayers.Choice
import HttpLayers.Duration
import HttpLayers.Text.Shown

-- A strategy is a function and shows only whether it is there.

namespace HttpLayers

inductive FieldState where
  | integer (value : Int)
  | flag (value : Bool)
  | text (value : String)
  | optionalText (value : Option String)
  | optionalTexts (values : Option (List String))
  | optionalTable (rows : Option (List (String × String)))
  | duration (value : Duration)
  | strategy (isPresent : Bool)
  | choice (name title : String)
  deriving Repr

structure Snapshot where
  name : String
  fields : List (String × FieldState)
  deriving Repr

open Text

namespace FieldState

def ofCode (code : UInt16) : FieldState :=
  .integer code.toNat

def ofChoice {α : Type} [Choice α] (value : α) : FieldState :=
  .choice (Choice.name value) (Choice.title value)

def shownTexts (values : List String) : Shown :=
  .list (values.map .quote)

def shownTable (rows : List (String × String)) : Shown :=
  .list (rows.map fun row => shownTexts [row.1,row.2])

def shown : FieldState → Shown
  | integer value => .word (toString value)
  | flag value => .word (if value then "true" else "false")
  | text value => .quote value
  | optionalText value => .ofOption (value.map .quote)
  | optionalTexts values => .ofOption (values.map shownTexts)
  | optionalTable rows => .ofOption (rows.map shownTable)
  | duration value => .word value.text
  | strategy isPresent => .ofOption (if isPresent then some (.quote "..") else none)
  | choice _ title => .word title

end FieldState

def Snapshot.shown (snapshot : Snapshot) : Shown :=
  .record snapshot.name (snapshot.fields.map fun field => (field.1,field.2.shown))

end HttpLayers
