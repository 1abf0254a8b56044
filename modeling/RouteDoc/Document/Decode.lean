import RouteDoc.Decode.Reader
import RouteDoc.Document.Model

/-!
Documents from data. What `Document.toData` leaves out may be missing; all else has to be there. A
name that stands twice among paths, methods, responses or properties counts by its last value.
-/

namespace RouteDoc.Decode

variable {ν : Type} (reader : Reader ν)

/-- The values of named entries, by name in order. -/
def sortedEntries {α : Type} (read : ν → Option α) (members : List (String × ν)) :
    Option (List (String × α)) :=
  members.foldlM (fun entries (name, value) =>
    (read value).map fun value => Assoc.putSorted Assoc.nameBefore name value entries) []

/-- The values of named entries, in the order in which the names first stand. -/
def orderedEntries {α : Type} (read : ν → Option α) (members : List (String × ν)) :
    Option (List (String × α)) :=
  members.foldlM (fun entries (name, value) =>
    (read value).map fun value => Assoc.put name value entries) []

/-- A list of texts with at most `n` levels. -/
def textsWithin? (n : Nat) (value : ν) : Option (List String) :=
  if n = 0 then none else reader.texts? value

/-- A schema with at most `n` levels. Its properties are a level of their own. -/
def schema? : Nat → ν → Option Schema
  | 0, _ => none
  | n + 1, value => do
    let ⟨[type, items, properties, required], positional⟩ ←
      reader.fields? ["type", "items", "properties", "required"] value
      | none
    let type ← type.bind reader.text?
    let items? ← reader.optional (schema? n) positional items
    let readProperties := fun value =>
      match n with
      | 0 => none
      | m + 1 => (reader.record? value).bind (orderedEntries (schema? m))
    let properties? ← reader.optional readProperties positional properties
    let required? ← reader.optional (textsWithin? reader n) positional required
    return ⟨type, items?, properties?, required?⟩

def parameter? (n : Nat) (value : ν) : Option Parameter := do
  let ⟨[name, location, description, required, type, items, schema], positional⟩ ←
    reader.fields? ["name", "in", "description", "required", "type", "items", "schema"] value
    | none
  return {
    name := ← name.bind reader.text?
    location := ← location.bind reader.text?
    description := ← description.bind reader.text?
    required := ← required.bind reader.bool?
    type? := ← reader.optional reader.text? positional type
    items? := ← reader.optional (schema? reader (n - 1)) positional items
    schema? := ← reader.optional (schema? reader (n - 1)) positional schema }

def response? (value : ν) : Option Response := do
  let ⟨[description], _⟩ ← reader.fields? ["description"] value | none
  return ⟨← description.bind reader.text?⟩

def operation? (n : Nat) (value : ν) : Option Operation := do
  let ⟨[id, summary, tags, parameters, consumes, responses], _⟩ ←
    reader.fields? ["operationId", "summary", "tags", "parameters", "consumes", "responses"] value
    | none
  return {
    id := ← id.bind reader.text?
    summary := ← summary.bind reader.text?
    tags := ← orDefault [] reader.texts? tags
    parameters := ← (← parameters.bind reader.list?).mapM (parameter? reader (n - 2))
    consumes := ← orDefault [] reader.texts? consumes
    responses := ← sortedEntries (response? reader) (← responses.bind reader.record?) }

def info? (value : ν) : Option Info := do
  let ⟨[version, title], _⟩ ← reader.fields? ["version", "title"] value | none
  return ⟨← orDefault "" reader.text? version, ← orDefault "" reader.text? title⟩

def methods? (n : Nat) (value : ν) : Option (List (String × Operation)) :=
  (reader.record? value).bind (sortedEntries (operation? reader (n - 1)))

def document? (value : ν) : Option Document := do
  let ⟨[swagger, info, host, basePath, schemes, paths], _⟩ ←
    reader.fields? ["swagger", "info", "host", "basePath", "schemes", "paths"] value
    | none
  return {
    swagger := ← swagger.bind reader.text?
    info := ← info.bind (info? reader)
    host := ← host.bind reader.text?
    basePath := ← basePath.bind reader.text?
    schemes := ← schemes.bind reader.texts?
    paths := ← sortedEntries (methods? reader (reader.levels - 2))
      (← paths.bind reader.record?) }

end RouteDoc.Decode
