import HttpContract.Value.Text

/-!
Media types where a value is given for one: as text that is read, or as they are.
-/
namespace HttpContract.Value

def toMediaType : Value → Result MediaType
  | mediaType m => .ok m
  | text s => MediaType.ofText s
  | v => do
    let s ← shown v
    throw (.blankMediaType (String.ofList s))

end HttpContract.Value
