import Attest.Host
import Attest.Settings
import Attest.Yaml.Meaning

/-!
# Settings from a document

Settings may be written in a YAML file. What the file says is taken as data is elsewhere, with two
differences: a document without content says nothing, and the names of settings have to be texts.
-/

namespace Attest.Settings

def namesRefusal : Failure :=
  .badType "keywords must be strings"

def Section.readDocument (s : Section) (d : Yaml.Data) : Except Failure Fields :=
  if !d.isGiven then .ok []
  else match d with
    | .map entries =>
      if entries.all (·.1.isText) then s.read d.toValue else .error namesRefusal
    | d => .error (s.kindRefusal d.kind)

def ofDocument (d : Yaml.Data) : Except Failure Settings :=
  if !d.isGiven then .ok default
  else match d with
    | .map entries => do
      let find (name : String) := (Yaml.Data.get? entries name).getD (.map [])
      let part (s : Section) := s.readDocument (find s.field)
      let pow ← part powSection
      let address ← part addressSection
      let logging ← part loggingSection
      return ofSections pow address logging (find "extra").toValue
    | d => .error (.lacksAttribute d.kind "get")

def ofFile {m : Type → Type} [Monad m] [Host m] (path : String) : ExceptT Failure m Settings := do
  if ← Host.doesExist path then
    let d ← Yaml.Data.read (.ofBytes (← Host.readBytes path))
    ofDocument d
  else throw (.file .absent s!"Config file not found: {path}")

end Attest.Settings
