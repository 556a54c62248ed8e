import HttpContract.Value

/-!
How values are written in messages. Text inside a list or a map is quoted and text by itself is not;
an integer of more than 4300 digits has no text.
-/
namespace HttpContract.Value

def typeName : Value → String
  | null => "NoneType"
  | bool _ => "bool"
  | int _ => "int"
  | real _ => "float"
  | decimal _ => "Decimal"
  | text _ => "str"
  | bytes _ => "bytes"
  | list _ => "list"
  | tuple _ => "tuple"
  | map _ => "dict"
  | element _ => "Element"
  | mediaType _ => "ContentType"
  | foreign name => name

def qualifiedTypeName : Value → String
  | decimal _ => "decimal.Decimal"
  | element _ => "xml.etree.ElementTree.Element"
  | v => typeName v

/-- The digits of an integer, if they are not too many. The limit on them is a number that is better
not written out, so that this is only unfolded where it is asked for. -/
@[irreducible] def integerShown (n : Int) : Result (List Char) :=
  if Number.isPrintableInteger n then .ok (Number.integerText n) else .error .unusableValue

def boolShown (b : Bool) : List Char := if b then "True".toList else "False".toList

def mediaTypeShown (m : MediaType) : List Char :=
  let parameter (e : String × String) : List Char :=
    Text.quoted e.1.toList ++ ": ".toList ++ Text.quoted e.2.toList
  "ContentType(value=".toList ++ Text.quoted m.text.toList ++ ", mime_type=".toList
    ++ Text.quoted m.essence.toList ++ ", parameters=mappingproxy(\x7b".toList
    ++ Text.join ", ".toList (m.parameters.map parameter) ++ "\x7d))".toList

mutual

def shown : Value → Result (List Char)
  | null => .ok "None".toList
  | bool b => .ok (boolShown b)
  | int n => integerShown n
  | real x => .ok x.text
  | decimal d => .ok ("Decimal('".toList ++ d.text ++ "')".toList)
  | text s => .ok (Text.quoted s.toList)
  | bytes b => .ok (Text.quotedBytes b)
  | list items => do
    let pieces ← itemsShown items
    return '[' :: Text.join ", ".toList pieces ++ [']']
  | tuple items => do
    let pieces ← itemsShown items
    return match pieces with
      | [piece] => '(' :: piece ++ [',', ')']
      | _ => '(' :: Text.join ", ".toList pieces ++ [')']
  | map entries => do
    let pieces ← entriesShown entries
    return '\x7b' :: Text.join ", ".toList pieces ++ ['\x7d']
  | element e => .ok ("<Element '".toList ++ e.tag.toList ++ "'>".toList)
  | mediaType m => .ok (mediaTypeShown m)
  | foreign name => .ok ("<".toList ++ name.toList ++ " object>".toList)

def itemsShown : List Value → Result (List (List Char))
  | [] => .ok []
  | v :: rest => do
    let piece ← shown v
    let pieces ← itemsShown rest
    return piece :: pieces

def entriesShown : List (Value × Value) → Result (List (List Char))
  | [] => .ok []
  | (k, v) :: rest => do
    let key ← shown k
    let value ← shown v
    let pieces ← entriesShown rest
    return (key ++ ": ".toList ++ value) :: pieces

end

def plain : Value → Result (List Char)
  | text s => .ok s.toList
  | decimal d => .ok d.text
  | mediaType m => .ok m.text.toList
  | v => shown v

def plainText (v : Value) : Result String := (plain v).map String.ofList

def described : Value → Result String
  | null => .ok "null"
  | text s => .ok ("'" ++ s ++ "'")
  | element e => .ok ("<" ++ e.tag ++ ">")
  | v => (shown v).map String.ofList

def describedType : Value → String
  | null => "Null"
  | v => typeName v

/-- The characters that a pattern is compared with: nothing for nothing, the text of an element,
and bytes as if they were UTF-8. -/
def content : Value → Result (List Char)
  | null => .ok []
  | element e => .ok (e.text.getD "").toList
  | bytes b => .ok (Encoding.lossy (Encoding.utf8Decode none b))
  | v => plain v

end HttpContract.Value
