import LinkShelf.Csv.Reader

/-! Writing records, with quotes only where a field could not be read without them. -/
namespace LinkShelf
namespace Csv

def needsQuotes (field : Bytes) : Bool :=
  field.any fun b => b == comma || b == quote || endsRecord b

def writeField (field : Bytes) : Bytes :=
  if needsQuotes field then
    quote :: field.flatMap (fun b => if b == quote then [quote, quote] else [b]) ++ [quote]
  else field

def writeRecord : List Bytes → Bytes
  | [] => [lineFeed]
  | [f] => writeField f ++ [lineFeed]
  | f :: g :: fs => writeField f ++ comma :: writeRecord (g :: fs)

def write (records : List (List Bytes)) : Bytes := records.flatMap writeRecord

end Csv
end LinkShelf
