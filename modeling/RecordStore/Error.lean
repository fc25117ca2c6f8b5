import RecordStore.Schema.RecordCheck
import RecordStore.Query.Basic
import RecordStore.Text.Hex
import RecordStore.Text.Quoted

/-!
What can go wrong, by cause, and the text of each cause.
-/
namespace RecordStore

/-- What does not fit a schema. -/
inductive Mismatch
  | defect (d : Schema.Defect)
  | noIndex (typeName index : String)
  | field (typeName attr : String) (fault : FieldFault)
  | notScalar (typeName attr : String)
  | notObject
  | otherSchema (typeName : String)
  | noSchema (typeName : String)
deriving DecidableEq, Repr

def Mismatch.message : Mismatch → String
  | defect d => d.message
  | noIndex t ix => "schema or index not found " ++ t ++ "." ++ ix
  | field t a f => t ++ "." ++ a ++ ": " ++ f.message
  | notScalar t a => t ++ "." ++ a ++ " is not a scalar"
  | notObject => "records must be JSON objects"
  | otherSchema t => "type " ++ t ++ " already has a different schema"
  | noSchema t => "no schema published for type " ++ t

/-- What is wrong with one term. -/
inductive TermFault
  | malformedList
  | singleValue (op : Operator)
  | nullComparison (op : Operator)
  | refused (r : Refusal)
deriving DecidableEq, Repr

def TermFault.message : TermFault → String
  | malformedList => "malformed IN list"
  | singleValue op => op.label ++ " takes a single value"
  | nullComparison op => op.label ++ " cannot compare with null"
  | refused r => r.message

/-- The least page size that is too large: a page fetches one row more than it shows, and limits are
signed words. -/
def pageSizeBound : Nat := 0x7fffffffffffffff

/-- Why a query cannot be compiled. -/
inductive QueryFault
  | notInIndex (field typeName index : String)
  | needsOneEq (typeName index column : String)
  | term (field : String) (fault : TermFault)
  | pageSizeZero
  | pageSizeTooLarge
  | undecodableId (fault : Key.Fault)
deriving DecidableEq, Repr

def QueryFault.message : QueryFault → String
  | notInIndex f t ix => "'" ++ f ++ "' not in index " ++ t ++ "." ++ ix
  | needsOneEq t ix c =>
    "unique index " ++ t ++ "." ++ ix ++ " requires exactly one EQ term for '" ++ c ++ "'"
  | term f fault => f ++ ": " ++ fault.message
  | pageSizeZero => "page size must be positive"
  | pageSizeTooLarge => "page size must be below " ++ pageSizeBound.repr
  | undecodableId fault => "id: Invalid key: " ++ fault.message

/-- What a database should never hold. -/
inductive Inconsistency
  | ambiguousLookup (typeName index : String) (rows : Nat)
  | negativeId (id : Int64) (table : String)
  | negativeRecordId (id : Int64)
deriving DecidableEq, Repr

def Inconsistency.message : Inconsistency → String
  | ambiguousLookup t ix n => "unique index " ++ t ++ "." ++ ix ++ " returned " ++ n.repr ++ " rows"
  | negativeId n t => "negative id " ++ Text.decimal n.toInt ++ " in " ++ t
  | negativeRecordId n => "negative record id " ++ Text.decimal n.toInt

/-- Why a type has no number. -/
inductive UnknownType
  | unregistered (typeName : String)
  | invalidNumber (typeName : String) (typeId : Int64)
deriving DecidableEq, Repr

def UnknownType.message : UnknownType → String
  | unregistered t => t
  | invalidNumber t n => t ++ " has an invalid type id " ++ Text.decimal n.toInt

/-- What the database refuses. -/
inductive DatabaseFault
  | uniqueViolation
  | missingTable (name : String)
  | missingColumn (name : String)
  | missingInsertColumn (table name : String)
  | objectExists (name : String)
  | reservedName (name : String)
  | repeatedColumn (name : String)
  | noColumns
  | valueCount (table : String) (columns values : Nat)
  | missingValue (table column : String)
  | notRowNumber
  /-- A statement ends within one of its names, which a null character cuts off. -/
  | cutName (name : String)
  | unreadableStatement
  | counterOverflow
  | driver (text : String)
deriving DecidableEq, Repr

def DatabaseFault.message : DatabaseFault → String
  | uniqueViolation => "UNIQUE constraint failed"
  | missingTable n => "no such table: " ++ n
  | missingColumn n => "no such column: " ++ n
  | missingInsertColumn t n => "table " ++ t ++ " has no column named " ++ n
  | objectExists n => "object " ++ n ++ " already exists"
  | reservedName n => "object name reserved for internal use: " ++ n
  | repeatedColumn n => "duplicate column name: " ++ n
  | noColumns => "syntax error"
  | valueCount t c v =>
    "table " ++ t ++ " has " ++ c.repr ++ " columns but " ++ v.repr ++ " values were supplied"
  | missingValue t c => "NOT NULL constraint failed: " ++ t ++ "." ++ c
  | notRowNumber => "datatype mismatch"
  | cutName n =>
    let read := String.ofList ('"' :: Text.quoteBody '"' (n.toList.takeWhile (· != '\x00')))
    "unrecognized token: \"" ++ read ++ "\""
  | unreadableStatement => "syntax error"
  | counterOverflow => "mismatched types"
  | driver t => t

/-- Why stored text cannot be read. -/
inductive UnreadableText
  | malformed
  | defect (d : Schema.Defect)
deriving DecidableEq, Repr

/-- What is wrong with a configuration. -/
inductive SettingsFault
  | badIv (fault : Text.HexFault)
  | ivLength
  | zeroIterations
  | lookupLimit (limit : UInt64)
  | unreadable
deriving DecidableEq, Repr

inductive Error
  | schemaMismatch (m : Mismatch)
  | queryValidation (q : QueryFault)
  | uniquenessConflict (typeName index : String)
  | consistencyViolation (i : Inconsistency)
  | invalidCursor (token : String)
  | invalidKey (k : Key.Fault)
  | unknownType (u : UnknownType)
  | database (d : DatabaseFault)
  | serialization (u : UnreadableText)
  /-- A statement names some columns and gives another number of values. -/
  | queryBuild (columns values : Nat)
  | settings (s : SettingsFault)
deriving DecidableEq, Repr

/-- The text of a fault in hexadecimal digits. -/
def hexFaultMessage : Text.HexFault → String
  | .oddLength => "Odd number of digits"
  | .badDigit b i =>
    "Invalid character " ++ Text.escapedSingle (Char.ofNat b.toNat) ++ " at position " ++ i.repr

namespace Error

/-- The text of an error.  Faults of the database, of stored text that is no JSON and of
configuration files have no text of their own. -/
def message? : Error → Option String
  | schemaMismatch m => some ("Schema mismatch: " ++ m.message)
  | queryValidation q => some ("Query validation failed: " ++ q.message)
  | uniquenessConflict t ix => some ("Uniqueness conflict: type=" ++ t ++ ", index=" ++ ix)
  | consistencyViolation i => some ("Consistency violation: " ++ i.message)
  | invalidCursor t => some ("Invalid cursor: '" ++ t ++ "' is not a pagination token")
  | invalidKey k => some ("Invalid key: " ++ k.message)
  | unknownType u => some ("Unknown type: " ++ u.message)
  | database _ => none
  | serialization .malformed => none
  | serialization (.defect d) =>
    some ("Serialization error: Schema mismatch: " ++ d.message)
  | queryBuild c v =>
    some ("Query build error: Columns and values length mismatch: " ++ c.repr ++ " != " ++ v.repr)
  | settings (.badIv f) =>
    some ("Configuration error: key_codec.iv must be 16 hex characters: " ++ hexFaultMessage f)
  | settings .ivLength =>
    some "Configuration error: key_codec.iv must decode to exactly 8 bytes"
  | settings .zeroIterations =>
    some "Configuration error: key_codec.iterations must be positive"
  | settings (.lookupLimit n) =>
    some ("Configuration error: index.unique_lookup_limit must be between 1 and " ++
      (0x7fffffffffffffff : Nat).repr ++ ", got " ++ n.toNat.repr)
  | settings .unreadable => none

end Error

end RecordStore
