import HttpContract.Error

/-!
Text to bytes and back in an encoding that is given by its name.
-/
namespace HttpContract.Encoding

def encodeText (wrap : EncodingFault → Error) (charset : String) (s : List Char) :
    Result (List UInt8) :=
  match findText charset with
  | .error .cut => .error .unusableValue
  | .error fault => .error (wrap (.lookup fault))
  | .ok encoding =>
    match encoding.encode s with
    | .ok bytes => .ok bytes
    | .error (.lacks fault) => .error (wrap (.unencodable fault))
    | .error _ => .error .malformedText

def decodeText (charset : String) (bytes : List UInt8) : Result (List Char) :=
  match findText charset with
  | .error .cut => .error .unusableValue
  | .error _ => .error .unknownEncoding
  | .ok encoding =>
    match encoding.decode bytes with
    | .ok s => .ok s
    | .error .undecodable => .error .undecodable
    | .error .malformed => .error .malformedText

end HttpContract.Encoding
