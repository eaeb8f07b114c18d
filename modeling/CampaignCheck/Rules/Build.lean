import CampaignCheck.Data.Misuse
import CampaignCheck.Rules.Table
import CampaignCheck.Schema.Record

namespace CampaignCheck

/-- Why an object is no rule. The name of the rule is quoted as it was given. -/
inductive RuleError where
  | notMapping (kind : String)
  | noDialects (id : String)
  | unknownDialect (id : String) (unknown : UnknownDialect)
  | invalid (id : String) (faults : List Schema.Fault)
deriving DecidableEq, Repr, Inhabited

/-- How the reason is reported, in one line. -/
def RuleError.message : RuleError → String
  | notMapping kind => "rule must be a mapping, got " ++ kind
  | noDialects id => "rule " ++ id ++ " has no dialects"
  | unknownDialect id unknown => "rule " ++ id ++ ": " ++ unknown.message
  | invalid id faults =>
    "invalid rule " ++ id ++ ": " ++ toString faults.length ++ " validation error" ++
      (if faults.length = 1 then "" else "s") ++ " for RuleDefinition"

/-- Why no rule was built: the value is no rule, or a part of it has a kind nobody expects. -/
inductive BuildError where
  | rule (e : RuleError)
  | misuse (e : Misuse)
deriving DecidableEq, Repr, Inhabited

namespace Rule

def isAll : Value → Bool
  | .text s => Text.lowerString s == "all"
  | _ => false

/-- The text of a dialect's name; what counts as false is the empty text. -/
def dialectText : Value → Except Misuse String
  | .text s => .ok s
  | .bytes bs => .ok (Value.bytes bs).quoted
  | v => if v.isTruthy then .error (.lacks v.kind "strip") else .ok ""

/-- The dialects that an element of a list names; bytes name none. -/
def dialectsNamed (id : String) (v : Value) : Except BuildError (List Dialect) :=
  if isAll v then .ok Dialect.all
  else match dialectText v with
    | .error e => .error (.misuse e)
    | .ok s =>
      match Dialect.parse s with
      | .ok d => .ok [d]
      | .error e => .error (.rule (.unknownDialect id e))

/-- The dialects that the elements of a list name, or the first error. -/
def dialectsOf (id : String) : List Value → Except BuildError (List Dialect)
  | [] => .ok []
  | v :: vs => do
    let ds ← dialectsNamed id v
    let more ← dialectsOf id vs
    return ds ++ more

/-- The value that holds the dialects: that of the first of two fields unless it counts as false. -/
def dialectsField (fs : Fields) : Value :=
  let first := (fs.get? "dialects").getD .null
  if first.isTruthy then first else (fs.get? "languages").getD .null

/-- The elements of the value that holds the dialects; a text is one element. -/
def dialectElements : Value → Except Misuse (List Value)
  | .text s => .ok [.text s]
  | v => v.elements

/-- The pattern of a rule counts beyond all bounds. -/
def isOversized (fs : Fields) : Bool :=
  match Fields.get? fs "pattern" with
  | some (.text s) =>
    match Pattern.read s {} with
    | .error .oversizedCount => true
    | _ => false
  | _ => false

/-- A rule from the fields of an object; what is wrong with them is a list of faults unless the
pattern cannot even be counted. -/
def check (dialects : Schema.Checked (List Dialect)) (fs : Fields) :
    Except Misuse (Schema.Checked Rule) :=
  if isOversized fs then .error .oversizedRepetition else .ok (Rule.ofFieldsWith dialects fs)

/-- A key of the value is no text. -/
def hasUnnamed : Value → Bool
  | .table _ => true
  | _ => false

def build (v : Value) : Except BuildError Rule :=
  match v.fields? with
  | some fs =>
    let id := ((Fields.get? fs "id").getD .null).quoted
    let field := dialectsField fs
    if !field.isTruthy then .error (.rule (.noDialects id))
    else match dialectElements field with
      | .error e => .error (.misuse e)
      | .ok elements => do
        let ds ← dialectsOf id elements
        if hasUnnamed v then .error (.misuse .unnamedField)
        else match check (.ok (Dialect.gather ds)) (fs.map fun f => (f.1, f.2.decoded)) with
          | .ok (.ok r) => return r
          | .ok (.faults faults) => .error (.rule (.invalid id faults))
          | .error e => .error (.misuse e)
  | none => .error (.rule (.notMapping v.kind))

end Rule

namespace RuleTable

/-- Add the rules among some values until one has a part of a kind nobody expects; values that are
no rules are passed over. The number of rules added comes with the table. -/
def loadList (t : RuleTable) : List Value → RuleTable × Except Misuse Nat
  | [] => (t, .ok 0)
  | v :: vs =>
    match Rule.build v with
    | .ok r =>
      let (t, count) := loadList (t.add r) vs
      (t, count.map (· + 1))
    | .error (.rule _) => loadList t vs
    | .error (.misuse e) => (t, .error e)

/-- Add the rules among the elements of a value. -/
def load (t : RuleTable) (entries : Value) : RuleTable × Except Misuse Nat :=
  match entries.elements with
  | .ok vs => t.loadList vs
  | .error e => (t, .error e)

/-- Add the rules of a rule file. -/
def loadDocument (t : RuleTable) (document : Value) : Except Misuse RuleTable := do
  let fs ← (if document.isTruthy then document else .object []).fields
  let rules := (fs.get? "rules").getD .null
  let (t, count) := t.load (if rules.isTruthy then rules else .list [])
  let _ ← count
  return t

end RuleTable

end CampaignCheck
