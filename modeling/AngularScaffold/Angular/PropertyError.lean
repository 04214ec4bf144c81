import AngularScaffold.Angular.EnumTable

namespace AngularScaffold.Angular

inductive PropertyError where
  | ordinalOutOfRange (key : String) (table : EnumTable) (ordinal : Int64)
  | unknownMember (key : String) (table : EnumTable) (name : String)
  | notEnumValue (key : String) (table : EnumTable) (kind : String)
  deriving DecidableEq

namespace PropertyError

def message : PropertyError → String
  | ordinalOutOfRange key table ordinal =>
    toString ordinal.toInt ++ " is not a valid " ++ table.name ++ " ordinal for '" ++ key ++ "'"
  | unknownMember key table name =>
    "'" ++ name ++ "' is not a member of " ++ table.name ++ " (used by '" ++ key ++ "')"
  | notEnumValue key table kind =>
    "'" ++ key ++ "' expects a " ++ table.name ++ " ordinal or member name, found a " ++ kind

def code : PropertyError → String
  | ordinalOutOfRange _ _ _ => "ngwrite::enum_out_of_range"
  | unknownMember _ _ _ => "ngwrite::unknown_enum_member"
  | notEnumValue _ _ _ => "ngwrite::invalid_enum_value"

def help? : PropertyError → Option String
  | ordinalOutOfRange _ table _ => some ("use one of: " ++ table.choices)
  | unknownMember _ table _ => some ("use one of: " ++ table.choices)
  | notEnumValue _ _ _ => none

end PropertyError

end AngularScaffold.Angular
