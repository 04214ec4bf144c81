import AngularScaffold.Value.Basic

namespace AngularScaffold.Value

def hexDigit (n : Nat) : Char :=
  Nat.digitChar (n % 16)

def escapeJson (c : Char) : List Char :=
  if c = '"' then ['\\', '"']
  else if c = '\\' then ['\\', '\\']
  else if c = '\n' then ['\\', 'n']
  else if c = '\r' then ['\\', 'r']
  else if c = '\t' then ['\\', 't']
  else if c = '\x08' then ['\\', 'b']
  else if c = '\x0c' then ['\\', 'f']
  else if c.toNat < 0x20 then ['\\', 'u', '0', '0', hexDigit (c.toNat / 16), hexDigit c.toNat]
  else [c]

def quoteJson (s : String) : String :=
  String.ofList ('"' :: (s.toList.flatMap escapeJson ++ ['"']))

mutual

def toJson : Value → String
  | bool b => if b then "true" else "false"
  | int i => toString i.toInt
  | float x => Decimal.json.write x
  | text s => quoteJson s
  | list items => "[" ++ ",".intercalate (itemsToJson items) ++ "]"
  | map entries => "\x7b" ++ ",".intercalate (entriesToJson entries) ++ "\x7d"

def itemsToJson : List Value → List String
  | [] => []
  | v :: vs => v.toJson :: itemsToJson vs

def entriesToJson : List (String × Value) → List String
  | [] => []
  | (k, v) :: es => (quoteJson k ++ ":" ++ v.toJson) :: entriesToJson es

end

end AngularScaffold.Value

namespace AngularScaffold

def Config.toJson (c : Config) : String :=
  Value.toJson (.map c.entries)

end AngularScaffold
