import CustomCommands.Assoc

/-!
# Values

The payload of an action: a text, a list, or a mapping whose entries stay in
the order they were written in. Numbers, truth values and nulls of a document
have become their texts.
-/

namespace CustomCommands

inductive Value where
  | text (s : String)
  | list (items : List Value)
  | map (entries : List (String × Value))
  deriving Repr, Inhabited

namespace Value

def text? : Value → Option String
  | text s => some s
  | _ => none

def list? : Value → Option (List Value)
  | list items => some items
  | _ => none

def map? : Value → Option (List (String × Value))
  | map entries => some entries
  | _ => none

def get? (v : Value) (key : String) : Option Value :=
  v.map?.bind (Assoc.get? key)

def getText? (v : Value) (key : String) : Option String :=
  (v.get? key).bind text?

/-- The texts of a list; lists and mappings among its items are passed over. -/
def lines? (v : Value) : Option (List String) :=
  v.list?.map fun items => items.filterMap text?

def isEmpty : Value → Bool
  | text s => s.isEmpty
  | list items => items.isEmpty
  | map entries => entries.isEmpty

/-- What the value is called in a diagnosis. -/
def kind : Value → String
  | text _ => "string"
  | list _ => "list"
  | map _ => "mapping"

/-! ## Text -/

mutual

/-- The value on one line, without quotes. -/
def display : Value → String
  | text s => s
  | list items => "[" ++ displayItems items ++ "]"
  | map entries => "\x7b" ++ displayEntries entries ++ "\x7d"

def displayItems : List Value → String
  | [] => ""
  | [v] => v.display
  | v :: vs => v.display ++ ", " ++ displayItems vs

def displayEntries : List (String × Value) → String
  | [] => ""
  | [(k, v)] => k ++ ": " ++ v.display
  | (k, v) :: es => k ++ ": " ++ v.display ++ ", " ++ displayEntries es

end

/-! ## Rewriting every text -/

mutual

/-- Applies `f` to every text at a leaf; keys stay as they are. -/
def mapText (f : String → String) : Value → Value
  | text s => text (f s)
  | list items => list (mapItems f items)
  | map entries => map (mapEntries f entries)

def mapItems (f : String → String) : List Value → List Value
  | [] => []
  | v :: vs => v.mapText f :: mapItems f vs

def mapEntries (f : String → String) : List (String × Value) → List (String × Value)
  | [] => []
  | (k, v) :: es => (k, v.mapText f) :: mapEntries f es

end

variable (f : String → String)

theorem text?_mapText (v : Value) : (v.mapText f).text? = v.text?.map f := by
  cases v <;> rfl

theorem filterMap_mapItems (items : List Value) :
    (mapItems f items).filterMap text? = (items.filterMap text?).map f := by
  induction items with
  | nil => rfl
  | cons v items ih =>
    rw [mapItems, List.filterMap_cons, List.filterMap_cons, text?_mapText]
    cases v.text? with
    | none => exact ih
    | some s => simp only [Option.map_some, List.map_cons, ih]

theorem lines?_mapText (v : Value) : (v.mapText f).lines? = v.lines?.map (List.map f) := by
  cases v with
  | text | map => rfl
  | list items => exact congrArg some (filterMap_mapItems f items)

end Value

end CustomCommands
