import HttpContract.Encoding.Text
import HttpContract.MediaType

/-!
Bodies of requests and responses: there may be none, it may be declared as null, or it is there, and
then it may be empty. Bytes come with the media type they were declared with, if any.
-/
namespace HttpContract

inductive BodyContent
  | missing
  | null
  | empty
  | present (bytes : List UInt8)
  deriving DecidableEq

structure Body where
  content : BodyContent
  mediaType : Option MediaType
  deriving DecidableEq

namespace Body

def missing : Body := ⟨.missing, none⟩

def null : Body := ⟨.null, none⟩

def empty : Body := ⟨.empty, none⟩

/-- No bytes at all are an empty body, and no list of bytes a null body. -/
def ofBytes? (bytes : Option (List UInt8)) (mediaType : Option MediaType) : Body :=
  match bytes with
  | none => ⟨.null, mediaType⟩
  | some [] => ⟨.empty, mediaType⟩
  | some bytes => ⟨.present bytes, mediaType⟩

def ofBytes (bytes : List UInt8) (mediaType : Option MediaType) : Body :=
  ofBytes? (some bytes) mediaType

/-- The body that bytes with this media type make. Without any it is null and has no media type. -/
def encoded (bytes : Option (List UInt8)) (m : MediaType) : Body :=
  match bytes with
  | none => null
  | some bytes => ofBytes bytes (some m)

def bytes? (b : Body) : Option (List UInt8) :=
  match b.content with
  | .missing | .null => none
  | .empty => some []
  | .present bytes => some bytes

def charset (b : Body) (default : String) : String :=
  match b.mediaType with
  | some m => m.charset default
  | none => default

def text (b : Body) (default : String) : Result String :=
  match b.content with
  | .present bytes => String.ofList <$> Encoding.decodeText (b.charset default) bytes
  | _ => .ok ""

end Body

end HttpContract
