/-!
# Failures

The few inputs that end a run without a result. Everything else that is wrong
with a resource is a diagnostic.
-/

namespace ResourceAudit

inductive Failure
  /-- A standard numeric specifier whose precision has too many digits to be
  read as a number. -/
  | precisionTooLong (digits : Nat)
  /-- A use of a parameter before the first one of the declaration. -/
  | parameterOutOfRange
  /-- A document that declares an encoding nobody knows. -/
  | unknownEncoding (name : String)
  /-- A document that declares a codec that is no encoding of text. -/
  | notTextEncoding (name : String)
  /-- A document that declares an encoding whose characters are not one byte each. -/
  | multibyteEncoding
  /-- A document that declares an encoding whose codec fails for a reason of its own. -/
  | codecFailed (reason : String)
deriving DecidableEq, Repr

namespace Failure

/-- The longest digit run that is read as a precision. -/
def precisionDigitLimit : Nat := 4300

def message : Failure → String
  | precisionTooLong digits =>
      s!"Exceeds the limit ({precisionDigitLimit} digits) for integer string conversion: " ++
        s!"value has {digits} digits; use sys.set_int_max_str_digits() to increase the limit"
  | parameterOutOfRange => "list index out of range"
  | unknownEncoding name => s!"unknown encoding: {name}"
  | notTextEncoding name =>
      s!"'{name}' is not a text encoding; use codecs.decode() to handle arbitrary codecs"
  | multibyteEncoding => "multi-byte encodings are not supported"
  | codecFailed reason => reason

end Failure

end ResourceAudit
