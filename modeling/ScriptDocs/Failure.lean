/-
# Failures

Everything that can end an operation, by cause. The kind of a failure decides how
the service answers, and its message is what a log or a client is told. Findings
about a snippet are no failures; they are part of a result.
-/

import ScriptDocs.Field.Fault
import ScriptDocs.Text.Utf8
import ScriptDocs.Url.Fault

namespace ScriptDocs

/-- Why an operation ended without a result. -/
inductive Failure
  /-- No snippet was given. -/
  | codeMissing
  /-- The snippet holds nothing beside fences. -/
  | codeEmpty
  | questionBlank
  | queryBlank
  | functionNameBlank
  /-- The embedding provider cannot be asked without a key. -/
  | embeddingKeyMissing
  | embeddingUnauthorized
  | embeddingRefused (status : Int)
  | embeddingUndelivered (reason : Text)
  | embeddingNotJson
  | embeddingNotObject
  | vectorMissing
  | vectorNotNumeric
  /-- The generation provider cannot be asked without a key. -/
  | generationKeyMissing
  | generationFailed (reason : Text)
  | searchTimedOut
  | validationTimedOut
  | vectorEmpty
  | vectorLengthDiffers (got held : Nat)
  | dialectUnsupported (name : Text)
  | fieldsInvalid (faults : List FieldFault)
  /-- A moment of the year 0 was given, which no calendar has. -/
  | yearZero
  /-- The row of a fingerprint exists already where it was inserted without a check. -/
  | fingerprintRepeated
  /-- A column that must have a value was given none. -/
  | columnEmpty
  /-- A column was given what no column can hold. -/
  | columnUnfit
  /-- An insertion has failed, and the transaction has not been rolled back since. -/
  | transactionBroken
  | fileNotUtf8 (fault : Utf8Fault)
  | beyondDoubles
  | quotientBeyondDoubles
  /-- An integer for the store is no 64-bit integer. -/
  | integerBeyondStore
  /-- A paragraph would have to be cut into slices of size zero. -/
  | sliceSizeZero
  /-- A part of a reply lacks what every value of the expected form has. -/
  | replyPartMisshapen
  /-- A reply has an object where a list is expected. -/
  | replyListKeyed
  /-- A reply has a number where a list is expected. -/
  | replyListNumeric
  | nestedTooDeep
  /-- The provider's address is none, as the network tells. -/
  | endpointInvalid
  | addressInvalid (fault : UrlFault)
  /-- An address is relative, so that its reply cannot be told to come from anywhere. -/
  | addressRelative (address : Text)
  | hostUnreadable (fault : Url.LabelFault)
  /-- A text that is to be sent or stored holds a surrogate that stands alone. -/
  | textUnwritable
  | addressUnreadable
  | hostNumberUnreadable
  | notDirectory
  /-- A path holds the character that ends paths. -/
  | pathCutShort
  /-- A path, or one of its names, is longer than the file system takes. -/
  | pathTooLong
  | databaseUnopened
  /-- What was given for the pause is no number. -/
  | pauseNotNumeric
  /-- What was given for the mode of a validation is no text. -/
  | modeNotText
  /-- A score cannot be compared with the threshold, as it is no number. -/
  | scoreNotNumeric
  deriving DecidableEq, Repr

namespace Failure

/-- The kinds of failures. -/
inductive Kind
  | invalidInput
  | embeddingUnavailable
  | embeddingMalformed
  | generationUnavailable
  | cancelled
  | storage
  | invalidFields
  | other (name : Text)
  deriving DecidableEq, Repr

/-- The kind of a failure. -/
def kind : Failure → Kind
  | codeMissing | codeEmpty | questionBlank | queryBlank | functionNameBlank => .invalidInput
  | embeddingKeyMissing | embeddingUnauthorized | embeddingRefused _ | embeddingUndelivered _ =>
    .embeddingUnavailable
  | embeddingNotJson | embeddingNotObject | vectorMissing | vectorNotNumeric => .embeddingMalformed
  | generationKeyMissing | generationFailed _ => .generationUnavailable
  | searchTimedOut | validationTimedOut => .cancelled
  | vectorEmpty | vectorLengthDiffers _ _ | dialectUnsupported _ => .storage
  | fieldsInvalid _ => .invalidFields
  | fingerprintRepeated | columnEmpty => .other "IntegrityError"
  | columnUnfit => .other "ProgrammingError"
  | transactionBroken => .other "PendingRollbackError"
  | fileNotUtf8 _ => .other "UnicodeDecodeError"
  | beyondDoubles | quotientBeyondDoubles | integerBeyondStore => .other "OverflowError"
  | sliceSizeZero | hostNumberUnreadable | pathCutShort => .other "ValueError"
  | replyPartMisshapen | modeNotText => .other "AttributeError"
  | replyListKeyed => .other "KeyError"
  | replyListNumeric | pauseNotNumeric | scoreNotNumeric => .other "TypeError"
  | nestedTooDeep => .other "RecursionError"
  | endpointInvalid | addressInvalid _ => .other "InvalidURL"
  | addressRelative _ | yearZero => .other "ValueError"
  | hostUnreadable .malformed => .other "IDNAError"
  | hostUnreadable .characterRefused => .other "InvalidCodepoint"
  | hostUnreadable .contextRefused => .other "InvalidCodepointContext"
  | hostUnreadable .directionsMixed => .other "IDNABidiError"
  | textUnwritable => .other "UnicodeEncodeError"
  | addressUnreadable => .other "ArgumentError"
  | notDirectory => .other "NotADirectoryError"
  | pathTooLong => .other "OSError"
  | databaseUnopened => .other "OperationalError"

/-- The result of reading an address, whose faults are failures. -/
def ofAddress {α : Type} : Except UrlFault α → Except Failure α
  | .ok value => .ok value
  | .error fault => .error (.addressInvalid fault)

/-- The name of a kind as logs and answers show it. -/
def Kind.name : Kind → Text
  | .invalidInput => "InvalidInputError"
  | .embeddingUnavailable => "EmbeddingUnavailable"
  | .embeddingMalformed => "EmbeddingMalformed"
  | .generationUnavailable => "GenerationUnavailable"
  | .cancelled => "OperationCancelled"
  | .storage => "VectorStoreError"
  | .invalidFields => "ValidationError"
  | .other name => name

/-- The message of a failure; empty where none is fixed. -/
def message : Failure → Text
  | codeMissing => "Missing required parameter \"code\""
  | codeEmpty => "Empty code after normalization"
  | questionBlank => "Invalid question"
  | queryBlank => "Invalid query"
  | functionNameBlank => "Invalid function name"
  | embeddingKeyMissing => "GEMINI_API_KEY missing"
  | embeddingUnauthorized =>
    "Gemini embeddings unauthorized: enable the Generative Language API ".toList
      ++ "and use a server-side API key".toList
  | embeddingRefused status => "Embedding provider error: " ++ Text.ofInt status
  | embeddingUndelivered reason => "Embedding generation failed: " ++ reason
  | embeddingNotJson => "Embedding response is not JSON."
  | embeddingNotObject => "Embedding response must be a JSON object."
  | vectorMissing => "Invalid embedding response: missing vector."
  | vectorNotNumeric => "Invalid embedding vector: must be a float list."
  | generationKeyMissing => "MISTRAL_API_KEY missing"
  | generationFailed reason => "Generation failed: " ++ reason
  | searchTimedOut => "Search timed out"
  | validationTimedOut => "Validation timed out"
  | vectorEmpty => "Embedding vectors must be non-empty."
  | vectorLengthDiffers got held =>
    "Inconsistent embedding dimensionality: got " ++ Text.ofNat got ++ ", store holds ".toList
      ++ Text.ofNat held ++ "."
  | dialectUnsupported name => "Unsupported database dialect: " ++ name
  | fileNotUtf8 fault => fault.message
  | beyondDoubles => "int too large to convert to float"
  | quotientBeyondDoubles => "integer division result too large for a float"
  | addressInvalid fault => fault.message
  | addressRelative address => "unknown url type: " ++ Text.quoted address
  | pauseNotNumeric => "unsupported operand type(s) for /: 'list' and 'int'"
  | _ => []

end Failure

end ScriptDocs
