import CampaignCheck.Data.Yaml
import CampaignCheck.Rules.Build

namespace CampaignCheck.RuleTable

abbrev File := String × String

def isRuleFile (f : File) : Bool := Text.endsWith f.1.toList ".yaml".toList

def byName (files : List File) : List File := files.mergeSort fun a b => decide (a.1 ≤ b.1)

def addFiles (t : RuleTable) : List File → Except Misuse RuleTable
  | [] => .ok t
  | f :: fs =>
    match Yaml.read f.2 with
    | .error .malformed => addFiles t fs
    | .error (.misuse e) => .error e
    | .ok document => do
      let t ← t.loadDocument document
      addFiles t fs

/-- The rules of the files of a directory, read in the order of their names; a file that is not well
formed is passed over. -/
def ofFiles (files : List File) : Except Misuse RuleTable :=
  addFiles {} (byName (files.filter isRuleFile))

end CampaignCheck.RuleTable
