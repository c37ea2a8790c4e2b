import TokenInventory.Json.Reader
import TokenInventory.Json.Writer
import TokenInventory.Token.Record

/-!
# Store documents

The document in which an inventory is kept: its tokens, the users of its directory and the realms
that exist besides those the users live in. It is written in indented lines.
-/

namespace TokenInventory

/-- The contents of an inventory. -/
structure Document where
  tokens : List Token := []
  users : List User := []
  realms : List String := []

namespace Document

/-- The document in JSON. -/
def toJson (document : Document) : Json :=
  .obj [("tokens", .arr (document.tokens.map Token.toJson)),
    ("users", .arr (document.users.map User.toJson)), ("realms", .ofTexts document.realms)]

/-- Reads a document. -/
def ofJson? (json : Json) : Option Document := do
  let [tokens, users, realms] ← json.fields? ["tokens", "users", "realms"] | none
  let tokens ← Json.withDefault [] (Json.list? Token.ofJson?) tokens
  let users ← Json.withDefault [] (Json.list? User.ofJson?) users
  let realms ← Json.withDefault [] (Json.list? Json.text?) realms
  return { tokens, users, realms }

/-- The text in which the document is kept. -/
def write (document : Document) : String :=
  document.toJson.toIndented

/-- Reads the text of a document. -/
def read? (s : String) : Option Document :=
  (Json.ofText? s.toList).bind ofJson?

end Document

end TokenInventory
