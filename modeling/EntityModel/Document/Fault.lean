/-!
# Faults of documents

Why a document does not hold what is asked of it.
-/

namespace EntityModel.Document

/-- What is wrong with a document or a part of it. -/
inductive Fault where
  /-- The text is not well formed. -/
  | malformed
  /-- Something else stands where a value of that kind is needed. -/
  | expected (kind : String)
  /-- A field of a record is given twice. -/
  | repeatedField (name : String)
  /-- A record is given by position and has more items than fields. -/
  | tooManyItems
  deriving DecidableEq, Repr, Inhabited

namespace Fault

/-- The wording of a fault. -/
def message : Fault → String
  | malformed => "the text is not well formed"
  | expected kind => "expected " ++ kind
  | repeatedField name => "repeated field " ++ name
  | tooManyItems => "too many items"

end Fault

end EntityModel.Document
