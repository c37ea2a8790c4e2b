import TokenInventory.Store.Document

/-!
# The token store

A store holds the tokens of an inventory by their serials, the users of its directory and the realms
that are known. A store may be backed by a file, which holds the text of the store's document; every
change is written to the file before the next one. A change is made in memory first, so one whose
writing fails has to be undone there: what was under the serial before is put back.

A token may only be saved if all its realms are known. A document that was opened may hold tokens in
other realms; they stay as they are.
-/

namespace TokenInventory

/-- Tokens by their serials. -/
structure TokenTable where
  map : SortedMap Token
  /-- Each token is found under its serial. -/
  keyed : ∀ serial token, map.get? serial = some token → token.serial = serial

namespace TokenTable

/-- The table without tokens. -/
def empty : TokenTable :=
  ⟨.empty, by simp⟩

/-- The token with a serial. -/
def get? (table : TokenTable) (serial : String) : Option Token :=
  table.map.get? serial

/-- The table with a token put in, in place of one with the same serial. -/
def insert (table : TokenTable) (token : Token) : TokenTable where
  map := table.map.insert token.serial token
  keyed serial t h := by
    rw [SortedMap.get?_insert] at h
    split at h
    · next heq => exact Option.some.inj h ▸ heq
    · exact table.keyed serial t h

/-- The table without the token with a serial. -/
def erase (table : TokenTable) (serial : String) : TokenTable where
  map := table.map.erase serial
  keyed s t h := by
    rw [SortedMap.get?_erase] at h
    split at h
    · cases h
    · exact table.keyed s t h

/-- The table with that put back under a serial which was there before: a token or none. -/
def restore (table : TokenTable) (serial : String) : Option Token → TokenTable
  | some previous => table.insert previous
  | none => table.erase serial

/-- The tokens in ascending order of their serials. -/
def toList (table : TokenTable) : List Token :=
  table.map.values

/-- The tokens whose serials come after the given one, in ascending order. -/
def after (table : TokenTable) (serial : Option String) : List Token :=
  table.map.valuesAfter serial

/-- The table of the given tokens, or the first serial that occurs again. -/
def ofList (tokens : List Token) : Except String TokenTable :=
  tokens.foldlM (fun table token =>
    if (table.get? token.serial).isSome then .error token.serial else .ok (table.insert token))
    empty

end TokenTable

/-- Why a file could not be read or written. -/
inductive FileError
  | missing
  | refused
  /-- Another reason, in the words of the system. -/
  | other (wording : String)
  deriving DecidableEq, Repr

namespace FileError

/-- The wording of an error. -/
def message : FileError → String
  | missing => "No such file or directory (os error 2)"
  | refused => "Is a directory (os error 21)"
  | other wording => wording

end FileError

/-- Why a document is no store. -/
inductive DocumentError
  /-- The text is no document. -/
  | unreadable
  /-- Two tokens have the same serial. -/
  | duplicateSerial (serial : String)
  deriving DecidableEq, Repr

namespace DocumentError

/-- The wording of an error. -/
def message : DocumentError → String
  | unreadable => "not a store document"
  | duplicateSerial serial => "duplicate serial " ++ serial

end DocumentError

/-- Why an operation on a store failed. -/
inductive StoreError
  | tokenNotFound (serial : String)
  | tokenExists (serial : String)
  | unknownRealm (realm : String)
  | invalidDocument (reason : DocumentError)
  | file (reason : FileError)
  deriving DecidableEq, Repr

namespace StoreError

/-- The wording of an error. -/
def message : StoreError → String
  | tokenNotFound serial => "Token not found: " ++ serial
  | tokenExists serial => "Token already exists: " ++ serial
  | unknownRealm realm => "Realm does not exist: " ++ realm
  | invalidDocument reason => "Store document is invalid: " ++ reason.message
  | file reason => "Store I/O error: " ++ reason.message

end StoreError

/-- A file that a store is kept in. -/
structure BackingFile where
  content : String
  /-- Whether the attempt with a given number, counted from zero, to write the file succeeds. -/
  accepts : Nat → Bool := fun _ => true
  /-- The number of attempts so far. -/
  attempts : Nat := 0

/-- Writes a file, which keeps its content if the attempt fails. -/
def BackingFile.write (file : BackingFile) (content : String) :
    Except FileError Unit × BackingFile :=
  if file.accepts file.attempts then
    (.ok (), { file with content, attempts := file.attempts + 1 })
  else (.error .refused, { file with attempts := file.attempts + 1 })

/-- Tokens, a user directory and the known realms, perhaps kept in a file. -/
structure Store where
  tokens : TokenTable
  users : List User
  realms : SortedSet
  file : Option BackingFile := none

namespace Store

/-- The store of a document. -/
def ofDocument (document : Document) (file : Option BackingFile) : Except StoreError Store :=
  match TokenTable.ofList document.tokens with
  | .error serial => .error (.invalidDocument (.duplicateSerial serial))
  | .ok tokens =>
    .ok { tokens, users := document.users, file,
          realms := .ofList (document.realms ++ document.users.map User.realm) }

/-- A store that is not kept in a file. -/
def inMemory (document : Document) : Except StoreError Store :=
  ofDocument document none

/-- The store kept in a file. -/
def ofFile (file : BackingFile) : Except StoreError Store :=
  match Document.read? file.content with
  | none => .error (.invalidDocument .unreadable)
  | some document => ofDocument document (some file)

/-- The contents of the store, tokens and realms in ascending order. -/
def document (store : Store) : Document where
  tokens := store.tokens.toList
  users := store.users
  realms := store.realms.keys

/-- The number of tokens. -/
def size (store : Store) : Nat :=
  store.tokens.map.size

/-- The token with a serial. -/
def get? (store : Store) (serial : String) : Option Token :=
  store.tokens.get? serial

/-- The user that an owner names. -/
def resolve? (store : Store) (owner : Owner) : Option User :=
  User.resolve? store.users owner

/-- Whether a realm is known. -/
def knowsRealm (store : Store) (realm : String) : Bool :=
  store.realms.contains realm

/-- Writes the document of the store to its file, if there is one. -/
def persist (store : Store) : Except StoreError Unit × Store :=
  match store.file with
  | none => (.ok (), store)
  | some file =>
    match file.write store.document.write with
    | (.ok (), file) => (.ok (), { store with file := some file })
    | (.error reason, file) => (.error (.file reason), { store with file := some file })

/-- Makes a change of the tokens and writes it; if it cannot be written, the change is undone. -/
def commit (store : Store) (change undo : TokenTable → TokenTable) :
    Except StoreError Unit × Store :=
  match persist { store with tokens := change store.tokens } with
  | (.ok (), changed) => (.ok (), changed)
  | (.error e, changed) => (.error e, { changed with tokens := undo changed.tokens })

/-- Puts a token into the store, in place of one with the same serial. -/
def save (store : Store) (token : Token) : Except StoreError Unit × Store :=
  match token.realms.find? fun realm => !store.knowsRealm realm with
  | some realm => (.error (.unknownRealm realm), store)
  | none =>
    let previous := store.get? token.serial
    store.commit (·.insert token) (·.restore token.serial previous)

/-- Takes the token with a serial out of the store. -/
def remove (store : Store) (serial : String) : Except StoreError Unit × Store :=
  match store.get? serial with
  | none => (.error (.tokenNotFound serial), store)
  | some removed => store.commit (·.erase serial) (·.insert removed)

end Store

end TokenInventory
