import ActorManifest.Document.Parts
import ActorManifest.Refusal

/-!
# Reading fields

The readers that all records share.  An optional field is absent if its key is missing
or its value is null.  Variables are written in many ways and always become text: a
truth value is written in small letters, and all else as it is shown.
-/

namespace ActorManifest

/-- The entries of a record. -/
def entriesOf (owner : Owner) (d : Document) : Except Refusal DocumentEntries :=
  d.entries?.elim (.error (.notRecord owner)) .ok

/-- A text that is not empty. -/
structure FilledText where
  text : Text
  filled : text ≠ []

namespace Field

variable [Machine]

/-- A field that must hold text that is not empty. -/
def filled (owner : Owner) (field : String) (entries : DocumentEntries) :
    Except Refusal FilledText :=
  match lookup? field entries with
  | some (.scalar (.text (c :: rest))) => .ok ⟨c :: rest, List.cons_ne_nil c rest⟩
  | _ => .error (.notFilled owner field)

/-- An optional field that holds text. -/
def text? (owner : Owner) (field : String) (entries : DocumentEntries) :
    Except Refusal (Option Text) :=
  match lookup? field entries with
  | none | some (.scalar .null) => .ok none
  | some (.scalar (.text t)) => .ok (some t)
  | some d => .error (.notText owner field d.kindName)

/-- An optional field that holds text; absence counts as no text. -/
def textOrEmpty (owner : Owner) (field : String) (entries : DocumentEntries) :
    Except Refusal Text :=
  (text? owner field entries).map fun t => t.getD []

/-- An optional field that holds a whole number. -/
def integer? (owner : Owner) (field : String) (entries : DocumentEntries) :
    Except Refusal (Option Int) :=
  match lookup? field entries with
  | none | some (.scalar .null) => .ok none
  | some (.scalar (.int n)) => .ok (some n)
  | some d => .error (shownOr d (.notInteger owner field))

/-- An optional field that holds a truth value. -/
def bool? (owner : Owner) (field : String) (entries : DocumentEntries) :
    Except Refusal (Option Bool) :=
  match lookup? field entries with
  | none | some (.scalar .null) => .ok none
  | some (.scalar (.bool b)) => .ok (some b)
  | some d => .error (shownOr d (.notBool owner field))

/-- An optional field that holds a list whose items are read one by one. -/
def list? {α : Type} (owner : Owner) (field : String) (read : Document → Except Refusal α)
    (entries : DocumentEntries) : Except Refusal (Option (List α)) :=
  match lookup? field entries with
  | none | some (.scalar .null) => .ok none
  | some d =>
    match d.items? with
    | some items => (items.mapM read).map some
    | none => .error (.notList owner field)

/-- The text of the value of a variable. -/
def variableText : Document → Except Document.ShowFault Text
  | .scalar (.bool b) => .ok (if b then "true" else "false")
  | d => d.toText

/-- A variable: a name and a value. -/
def variableOf (owner : Owner) (field : String) (entry : Scalar × Document) :
    Except Refusal (Text × Text) :=
  match entry with
  | (key, .scalar .null) =>
    match key.text? with
    | some name => .error (.nullVariable owner field name)
    | none => .error .longNumber
  | (key, value) => do
    let content ← (variableText value).mapError .ofShowFault
    match key.text? with
    | some name => return (name, content)
    | none => throw .longNumber

/-- An optional field that holds variables.  Names that have the same text are one name. -/
def variables? (owner : Owner) (field : String) (entries : DocumentEntries) :
    Except Refusal (Option (Entries Text Text)) :=
  match lookup? field entries with
  | none | some (.scalar .null) => .ok none
  | some d =>
    match d.entries? with
    | some items =>
      (items.mapM (variableOf owner field)).map fun pairs =>
        some (Entries.ofList (· == ·) pairs)
    | none => .error (.notMapping owner field)

end Field

/-- Whether two sets of variables hold the same names with the same values, in any order. -/
def sameVariables (a b : Entries Text Text) : Bool :=
  a.length == b.length && a.all fun entry => b.contains entry

end ActorManifest
