import LoraConcentrator.Json.Reader

/-!
# Records of a JSON text

A record is read from an object, whose members may come in any order among members nobody asked for,
or from an array of its fields in the order of their declaration. A field that may lack keeps the
value of the blank record. A field is looked for when the closing bracket is met, so a problem
inside the record is found before a field that lacks.
-/

namespace LoraConcentrator.Json

/-- A field of a record. -/
structure Field (α : Type) where
  name : String
  isRequired : Bool
  /-- Reads the value of the field and puts it into a record. -/
  read : Reader (α → α)

/-- A kind of record. -/
structure Record (α : Type) where
  name : String
  /-- The record before any field is read. -/
  blank : α
  /-- The fields in the order of their declaration. -/
  fields : List (Field α)

namespace Field

variable {α β : Type}

/-- A field that must be there. -/
def required (name : String) (value : Reader β) (put : β → α → α) : Field α :=
  ⟨name, true, put <$> value⟩

/-- A field that may lack. -/
def optional (name : String) (value : Reader β) (put : β → α → α) : Field α :=
  ⟨name, false, put <$> value⟩

end Field

namespace Reader

variable {α : Type}

/-! ### Lists -/

/-- Goes to the next item of an array: whether there is one. The closing bracket stays. -/
def nextItem (isFirst : Bool) : Reader Bool := do
  match ← peek with
  | none => unfinished .list
  | some c =>
    if c = ']' then return false
    else if isFirst then return true
    else if c ≠ ',' then fault .expectedListEnd
    else
      advance
      match ← peek with
      | none => unfinished .value
      | some d => if d = ']' then fault .trailingComma else return true

/-- One turn of reading the items of an array; the items so far are in reverse. -/
def listTurn (item : Reader α) (items : List α) : Reader (List α ⊕ List α) := do
  if ← nextItem items.isEmpty then
    return .inl ((← item) :: items)
  else
    advance
    return .inr items.reverse

/-- Reads an array of any length. -/
def list (item : Reader α) : Reader (List α) := do
  if (← peek) = some '[' then
    advance
    loop (listTurn item) []
  else wrongType "a sequence"

/-- Takes the closing bracket of an array that must not have more items. -/
def closeList : Reader Unit := do
  match ← peek with
  | none => unfinished .list
  | some c =>
    if c = ']' then advance
    else if c ≠ ',' then fault .trailingCharacters
    else
      advance
      if (← peek) = some ']' then fault .trailingComma
      else fault .trailingCharacters

/-! ### Members -/

/-- Takes the key of the next member of an object, or nothing after the closing brace. -/
def nextKey (isFirst : Bool) : Reader (Option String) := do
  match ← peek with
  | none => unfinished .object
  | some c =>
    if c = '\x7d' then do
      advance
      return none
    else
      if ¬ isFirst then
        if c ≠ ',' then fault .expectedObjectEnd
        advance
      match ← peek with
      | none => unfinished .value
      | some d =>
        if d = '\x7d' then fault .trailingComma
        else if d ≠ '"' then fault .keyNotString
        else some <$> string true

end Reader

namespace Record

variable {α : Type} (record : Record α)

/-- A record that is being read from an object. -/
structure Draft (α : Type) where
  isFirst : Bool
  /-- The names of the fields that were read. -/
  seen : List String
  value : α

/-- The name of the first field that must be there and was not read. -/
def lacking? (seen : List String) : Option String :=
  (record.fields.find? fun field ↦ field.isRequired && ! seen.contains field.name).map (·.name)

open Reader in
/-- One turn of reading the members of an object. A key that was read before is a problem of its
own, whatever follows it. -/
def memberTurn (draft : Draft α) : Reader (Draft α ⊕ α) := do
  match ← nextKey draft.isFirst with
  | none =>
    match record.lacking? draft.seen with
    | some name => misfit (.missingField name)
    | none => return .inr draft.value
  | some key =>
    match record.fields.find? (·.name == key) with
    | none =>
      colon
      skipValue
      return .inl { draft with isFirst := false }
    | some field =>
      if draft.seen.contains field.name then
        misfit (.duplicateField field.name)
      else
        colon
        let put ← field.read
        return .inl ⟨false, field.name :: draft.seen, put draft.value⟩

open Reader in
/-- Reads the items of an array into the fields from the given index on. -/
def items : (index : Nat) → List (Field α) → α → Reader α
  | _, [], value => do
    closeList
    return value
  | index, field :: fields, value => do
    if ← nextItem (index == 0) then
      let put ← field.read
      items (index + 1) fields (put value)
    else if field.isRequired then
      misfit (.wrongLength index record.name record.fields.length)
    else
      absent (index + 1) fields value
where
  /-- Goes through the fields after the last item of an array. -/
  absent : (index : Nat) → List (Field α) → α → Reader α
    | _, [], value => do
      advance
      return value
    | index, field :: fields, value =>
      if field.isRequired then
        misfit (.wrongLength index record.name record.fields.length)
      else absent (index + 1) fields value

open Reader in
/-- Reads a record. -/
def read : Reader α := do
  match ← peek with
  | some '\x7b' =>
    advance
    loop record.memberTurn ⟨true, [], record.blank⟩
  | some '[' =>
    advance
    record.items 0 record.fields record.blank
  | _ => wrongType ("struct " ++ record.name)

end Record

/-- Reads a whole text as one value. -/
def Reader.ofText {α : Type} (value : Reader α) (text : String) : Except Problem α :=
  match value text.toList with
  | .error problem _ => .error problem
  | .ok a rest =>
    if rest.all isBlank then .ok a else .error (.malformed .trailingCharacters)

end LoraConcentrator.Json
