import ActorManifest.Document.Basic
import ActorManifest.Time.Iso

/-!
# Refusals

Why a document is no resource.  Each cause carries what its message shows.  Two causes are no
findings about the document: a message or a variable would have to show a whole number that
has too many digits, or lists and mappings that are nested too deeply.
-/

namespace ActorManifest

/-- The record whose field is refused. -/
inductive Owner where
  | actor
  | spec
  | partner
  | build
  | service
  | port
  | condition
  | ledger
deriving DecidableEq

/-- The name of a record in messages. -/
def Owner.label : Owner → String
  | .actor => "Actor"
  | .spec => "ActorSpec"
  | .partner => "Partner"
  | .build => "Build"
  | .service => "Service"
  | .port => "Port"
  | .condition => "Condition"
  | .ledger => "ActorStatus"

/-- Why a document is no resource. -/
inductive Refusal where
  /-- The record is no mapping. -/
  | notRecord (owner : Owner)
  /-- A field that must hold text is missing, empty, or holds something else. -/
  | notFilled (owner : Owner) (field : String)
  /-- A field holds something else than text. -/
  | notText (owner : Owner) (field : String) (kind : String)
  /-- A field holds something else than a whole number. -/
  | notInteger (owner : Owner) (field : String) (shown : Text)
  /-- A field holds something else than a truth value. -/
  | notBool (owner : Owner) (field : String) (shown : Text)
  /-- A field holds something else than a mapping. -/
  | notMapping (owner : Owner) (field : String)
  /-- A field holds something else than a list. -/
  | notList (owner : Owner) (field : String)
  /-- A field that must hold a list is missing or holds something else. -/
  | listRequired (owner : Owner) (field : String)
  /-- A field holds something else than a list of texts. -/
  | notTexts (owner : Owner) (field : String)
  /-- A field is missing. -/
  | missing (owner : Owner) (field : String)
  /-- A variable has no value. -/
  | nullVariable (owner : Owner) (field : String) (name : Text)
  /-- A field of a record with a name is empty. -/
  | emptyField (label : String) (name : Text) (field : String)
  /-- A port number is not a 32-bit number. -/
  | portRange (number : Int)
  /-- A condition is about no phase. -/
  | unknownPhase (shown : Text)
  /-- A condition was given something else than a phase. -/
  | notPhase (shown : Text)
  /-- A condition neither asserts nor retracts its phase. -/
  | notStatus (phase : String) (shown : Text)
  /-- The time of a condition is no timestamp. -/
  | badTime (cause : Iso.Fault)
  /-- The time of a condition has too many digits to be read. -/
  | longTime
  /-- The document is of another kind. -/
  | wrongKind (shown : Text)
  /-- The document follows another version of the schema. -/
  | wrongVersion (shown : Text)
  /-- A whole number has too many digits to be shown. -/
  | longNumber
  /-- Lists and mappings are nested too deeply to be shown. -/
  | deepNesting
deriving DecidableEq

/-- What is said of a whole number with too many digits. -/
def longNumberMessage : String :=
  "Exceeds the limit (4300 digits) for integer string conversion; " ++
    "use sys.set_int_max_str_digits() to increase the limit"

/-- A refusal in words. -/
def Refusal.message : Refusal → Text
  | .notRecord owner => Text.concat [owner.label, ": expected a mapping"]
  | .notFilled owner field =>
    Text.concat [owner.label, ": '", field, "' is required and must be a non-empty string"]
  | .notText owner field kind =>
    Text.concat [owner.label, ": '", field, "' must be a string, got ", kind]
  | .notInteger owner field shown =>
    Text.concat [owner.label, ": '", field, "' must be an integer, got ", shown]
  | .notBool owner field shown =>
    Text.concat [owner.label, ": '", field, "' must be a boolean, got ", shown]
  | .notMapping owner field => Text.concat [owner.label, ": '", field, "' must be a mapping"]
  | .notList owner field => Text.concat [owner.label, ": '", field, "' must be a list"]
  | .listRequired owner field =>
    Text.concat [owner.label, ": '", field, "' is required and must be a list"]
  | .notTexts owner field =>
    Text.concat [owner.label, ": '", field, "' must be a list of strings"]
  | .missing owner field => Text.concat [owner.label, ": '", field, "' is required"]
  | .nullVariable owner field name =>
    Text.concat [owner.label, ": '", field, ".", name, "' must not be null"]
  | .emptyField label name field =>
    Text.concat [label, " '", name, "': '", field, "' is required"]
  | .portRange number => Text.concat ["Port: ", Text.ofInt number, " is out of int32 range"]
  | .unknownPhase shown => Text.concat ["Unknown condition type: ", shown]
  | .notPhase shown => Text.concat ["Condition: type must be an ActorState, got ", shown]
  | .notStatus phase shown =>
    Text.concat ["Condition ", phase, ": status must be 'True' or 'False', got ", shown]
  | .badTime cause =>
    Text.concat ["Condition: invalid lastTransitionTime: ", cause.message]
  | .longTime => Text.concat ["Condition: invalid lastTransitionTime: ", longNumberMessage]
  | .wrongKind shown => Text.concat ["Actor: unexpected kind ", shown]
  | .wrongVersion shown => Text.concat ["Actor: unsupported apiVersion ", shown]
  | .longNumber => longNumberMessage
  | .deepNesting => "maximum recursion depth exceeded while getting the repr of an object"

/-- The refusal of a document that is not shown. -/
def Refusal.ofShowFault : Document.ShowFault → Refusal
  | .longNumber => .longNumber
  | .deepNesting => .deepNesting

/-- The refusal of a document that its message shows. -/
def shownOr [Machine] (d : Document) (refusal : Text → Refusal) : Refusal :=
  match d.shown with
  | .ok shown => refusal shown
  | .error fault => .ofShowFault fault

end ActorManifest
