/-
This file lists the areas that error types belong to. In a JSON text a category is written by its
name, exactly; a person may write it in any case, with hyphens and with blanks at either end.
-/

import Triage.Json.Reading
import Triage.Text.Blank
import Triage.Text.Case

namespace Triage

/-- The area that an error type belongs to. -/
inductive Category where
  | network
  | authentication
  | authorization
  | validation
  | configuration
  | fileSystem
  | security
  | api
  | provider
  | localGit
  | unknown
  deriving DecidableEq, Repr

namespace Category

/-- All categories, in their order. -/
def all : List Category := [
  .network, .authentication, .authorization, .validation, .configuration, .fileSystem, .security,
  .api, .provider, .localGit, .unknown]

/-- The name of a category. -/
def name : Category → String
  | .network => "network"
  | .authentication => "authentication"
  | .authorization => "authorization"
  | .validation => "validation"
  | .configuration => "configuration"
  | .fileSystem => "file_system"
  | .security => "security"
  | .api => "api"
  | .provider => "provider"
  | .localGit => "local"
  | .unknown => "unknown"

/-- The category with a name. -/
def ofName? (name : String) : Option Category :=
  all.find? (·.name == name)

/-- A hyphen as an underscore, and every other character as itself. -/
def underscored (character : Char) : Char :=
  if character = '-' then '_' else character

/-- The category that a person means. -/
def ofText? (text : String) : Option Category :=
  ofName? (String.ofList ((Text.lowercase (Text.trim text)).toList.map underscored))

/-- A category in a JSON text. -/
def reading : Json.Reading Category :=
  .choice ofName?

end Category

end Triage
