/-! The styles of known scopes. Each has a name, which is the name of the scopes drawn in it, a
place in a fixed order, and a colour of the 256-colour palette. -/

namespace ScopeLexer

inductive Style
  | comment
  | keyword
  | string
  | number
  | operator
  | htmlComment
  | htmlTagDelimiter
  | htmlElementName
  | htmlAttributeName
  | htmlAttributeValue
  | htmlEntity
  | cssSelector
  | cssPropertyName
  | cssPropertyValue
  | sqlSystemFunction
  deriving DecidableEq, Repr

namespace Style

def all : List Style :=
  [comment, keyword, string, number, operator, htmlComment, htmlTagDelimiter, htmlElementName,
    htmlAttributeName, htmlAttributeValue, htmlEntity, cssSelector, cssPropertyName,
    cssPropertyValue, sqlSystemFunction]

def name : Style → String
  | comment => "Comment"
  | keyword => "Keyword"
  | string => "String"
  | number => "Number"
  | operator => "Operator"
  | htmlComment => "Html Comment"
  | htmlTagDelimiter => "Html Tag Delimiter"
  | htmlElementName => "Html Element Name"
  | htmlAttributeName => "Html Attribute Name"
  | htmlAttributeValue => "Html Attribute Value"
  | htmlEntity => "Html Entity"
  | cssSelector => "Css Selector"
  | cssPropertyName => "Css Property Name"
  | cssPropertyValue => "Css Property Value"
  | sqlSystemFunction => "Sql System Function"

def colour : Style → Nat
  | comment | htmlComment => 244
  | keyword => 204
  | string | htmlAttributeValue | cssPropertyValue => 114
  | number | htmlEntity => 215
  | operator | cssPropertyName => 110
  | htmlTagDelimiter => 109
  | htmlElementName | cssSelector => 174
  | htmlAttributeName | sqlSystemFunction => 180

/-- The style of scopes of some name. -/
def ofName? (n : String) : Option Style := all.find? (·.name = n)

/-- The place of the style of some name. -/
def index? (n : String) : Option Nat := all.findIdx? (·.name = n)

end Style

end ScopeLexer
