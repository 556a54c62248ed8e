import HttpContract.Encoding.Charset

/-!
What can go wrong, by cause, and how it is said. Causes that come from a conversion of numbers or
from a pattern have no text of their own.
-/
namespace HttpContract

inductive PathFault
  | notRooted
  | missingField (position : Nat)
  | openQuote (position : Nat)
  | emptyQuote (position : Nat)
  | openIndex (position : Nat)
  | badIndex (digits : String)
  | unexpected (c : Char) (position : Nat)
  deriving DecidableEq

inductive JsonFault
  | unsupported (typeName : String)
  | unsupportedKey (typeName : String)
  | longInteger
  | signalingNumber
  deriving DecidableEq

inductive EncodingFault
  | lookup (fault : Encoding.LookupFault)
  | unencodable (fault : Encoding.Unencodable)
  deriving DecidableEq

inductive XmlFault
  | notText (shown typeName : String)
  | lookup (fault : Encoding.LookupFault)
  | encoding (fault : Encoding.EncodeFault)
  | openNamespace
  | unbuffered
  | longInteger
  deriving DecidableEq

inductive AbsentBody
  | given
  | quoted
  | produced
  deriving DecidableEq

inductive DocumentPart
  | party
  | state
  | request
  | response
  | interaction
  | contract
  deriving DecidableEq

inductive Objection
  | notText
  | undecodableText
  | blankName
  | notInteger
  | unreadInteger
  | longInteger
  | fraction
  | notFinite
  deriving DecidableEq

structure Complaint where
  location : List String
  objection : Objection
  deriving DecidableEq

inductive Error
  | unknownDefaultCharset (charset : String)
  | blankMediaType (shown : String)
  | mediaTypeEssence (essence value : String)
  | mediaTypeParameter (parameter value : String)
  | mediaTypeCharset (charset value : String)
  | path (fault : PathFault) (expression : String)
  | undefinedState (key : String)
  | undefinedPlaceholder (key expression : String)
  | absentBody (place : AbsentBody)
  | unsupportedBody (typeName : String)
  | unsupportedProduct (typeName : String)
  | json (fault : JsonFault)
  | jsonEncoding (charset : String) (fault : EncodingFault)
  | bodyEncoding (charset : String) (fault : EncodingFault)
  | xml (tag : String) (fault : XmlFault)
  | detachedDefaults
  | invalidDocument (part : DocumentPart) (complaints : List Complaint)
  | invalidRegex
  | unusableValue
  | unsuitableType
  | unknownEncoding
  | unencodable
  | undecodable
  /-- A text or its bytes break a rule of the encoding that is not about single characters. -/
  | malformedText
  | tooLarge
  | undefinedDecimal
  | unspecifiedGenerator
  /-- A text is asked of a pattern that uses what cannot be followed, or a set without members. -/
  | unsampledPattern
  | emptyPatternSet
  /-- What is referred to is not there. -/
  | unknownHandle
  | missingPath
  deriving DecidableEq

abbrev Result (α : Type) := Except Error α

namespace Encoding.LookupFault

def message (advice : String) : LookupFault → String
  | .unknown name => "unknown encoding: " ++ name
  | .notText name =>
    "'" ++ name ++ "' is not a text encoding; use " ++ advice ++ " to handle arbitrary codecs"
  | .cut => "embedded null character"

end Encoding.LookupFault

def PathFault.message (expression : String) : PathFault → String
  | .notRooted =>
    "Path expression " ++ Text.quotedText expression ++ " does not start with '$'"
  | .missingField n =>
    "Expected a field name at index " ++ toString n ++ " in path " ++ Text.quotedText expression
  | .openQuote n =>
    "Unterminated quoted field at index " ++ toString n ++ " in path "
      ++ Text.quotedText expression
  | .emptyQuote n =>
    "Empty quoted field at index " ++ toString n ++ " in path " ++ Text.quotedText expression
  | .openIndex n =>
    "Unterminated index at index " ++ toString n ++ " in path " ++ Text.quotedText expression
  | .badIndex digits =>
    "Invalid index " ++ Text.quotedText digits ++ " in path " ++ Text.quotedText expression
  | .unexpected c n =>
    "Unexpected character " ++ Text.quotedText (String.singleton c) ++ " at index " ++ toString n
      ++ " in path " ++ Text.quotedText expression

def longIntegerMessage : String :=
  "Exceeds the limit (4300 digits) for integer string conversion; " ++
    "use sys.set_int_max_str_digits() to increase the limit"

def JsonFault.message : JsonFault → String
  | .unsupported typeName => "Object of type " ++ typeName ++ " is not JSON serializable"
  | .unsupportedKey typeName =>
    "keys must be str, int, float, bool or None, not " ++ typeName
  | .longInteger => longIntegerMessage
  | .signalingNumber => "cannot convert signaling NaN to float"

def Encoding.EncodeFault.message : Encoding.EncodeFault → String
  | .lacks fault => fault.message
  | .undefined => "undefined encoding"
  | .unreplaceable => "unsupported error handling xmlcharrefreplace"
  | .noHostName => "label empty or too long"

def EncodingFault.message : EncodingFault → String
  | .lookup fault => fault.message "codecs.encode()"
  | .unencodable fault => fault.message

def XmlFault.message : XmlFault → String
  | .notText shown typeName => "cannot serialize " ++ shown ++ " (type " ++ typeName ++ ")"
  | .lookup fault => fault.message "codecs.open()"
  | .encoding fault => fault.message
  | .openNamespace => "not enough values to unpack (expected 2, got 1)"
  | .longInteger => longIntegerMessage
  | .unbuffered => "a bytes-like object is required, not 'str'"

def Objection.message : Objection → Option String
  | .blankName => some "pact participant names must be non-empty"
  | _ => none

def AbsentBody.message : AbsentBody → String
  | .given => "Body must not be None; use a missing or empty body instead"
  | .quoted => "Body must not be None"
  | .produced => "Body producer returned None"

namespace Error

def message : Error → Option String
  | unknownDefaultCharset charset =>
    some ("default_charset " ++ Text.quotedText charset ++ " is not a known encoding")
  | blankMediaType shown => some ("Content type must be a non-empty string, got " ++ shown)
  | mediaTypeEssence essence value =>
    some ("Invalid media type " ++ Text.quotedText essence ++ " in content type "
      ++ Text.quotedText value)
  | mediaTypeParameter parameter value =>
    some ("Invalid parameter " ++ Text.quotedText parameter ++ " in content type "
      ++ Text.quotedText value)
  | mediaTypeCharset charset value =>
    some ("Unsupported charset " ++ Text.quotedText charset ++ " in content type "
      ++ Text.quotedText value)
  | path fault expression => some (fault.message expression)
  | undefinedState key => some ("Provider state does not define " ++ Text.quotedText key)
  | undefinedPlaceholder key expression =>
    some ("Provider state does not define " ++ Text.quotedText key ++ " used in "
      ++ Text.quotedText expression)
  | absentBody place => some place.message
  | unsupportedBody typeName => some ("Unsupported body type " ++ typeName)
  | unsupportedProduct typeName =>
    some ("Body producer must return a string, not " ++ typeName)
  | json fault => some ("Could not serialise JSON body: " ++ fault.message)
  | jsonEncoding charset fault =>
    some ("Could not encode JSON body as " ++ charset ++ ": " ++ fault.message)
  | bodyEncoding charset fault =>
    some ("Could not encode body as " ++ charset ++ ": " ++ fault.message)
  | xml tag fault => some ("Could not serialise XML element <" ++ tag ++ ">: " ++ fault.message)
  | detachedDefaults => some "Default response values are not attached to a consumer pact"
  | _ => none

end Error

end HttpContract
