import Outline.Text.Basic

/-!
# Kinds of symbols

The structural categories a symbol can have, their names, and the icon that stands for each in a
row.
-/
namespace Outline

/-- The structural category of a symbol, in the order of the names. -/
inductive Kind
  | array
  | boolean
  | «class»
  | constant
  | constructor
  | enum
  | enumMember
  | event
  | field
  | file
  | function
  | interface
  | key
  | method
  | module
  | namespace
  | null
  | number
  | object
  | operator
  | package
  | property
  | string
  | struct
  | typeParameter
  | variable
  deriving DecidableEq, Repr

namespace Kind

/-- Every kind, in the order of the names. -/
def all : List Kind :=
  [array, boolean, .class, constant, constructor, enum, enumMember, event, field, file, function,
    interface, key, method, module, .namespace, null, number, object, operator, package, property,
    string, struct, typeParameter, .variable]

def name : Kind → String
  | array => "array"
  | boolean => "boolean"
  | .class => "class"
  | constant => "constant"
  | constructor => "constructor"
  | enum => "enum"
  | enumMember => "enum-member"
  | event => "event"
  | field => "field"
  | file => "file"
  | function => "function"
  | interface => "interface"
  | key => "key"
  | method => "method"
  | module => "module"
  | .namespace => "namespace"
  | null => "null"
  | number => "number"
  | object => "object"
  | operator => "operator"
  | package => "package"
  | property => "property"
  | string => "string"
  | struct => "struct"
  | typeParameter => "type-parameter"
  | .variable => "variable"

def ofName? (t : Text) : Option Kind := all.find? (·.name.toList == t)

/-- The icon of a kind; kinds without one of their own share a question mark. -/
def icon : Kind → Char
  | file => 'F'
  | module => 'M'
  | .namespace => 'N'
  | package => 'P'
  | .class => 'C'
  | method => 'm'
  | property => 'p'
  | field => 'd'
  | constructor => 'k'
  | enum => 'E'
  | interface => 'I'
  | function => 'f'
  | .variable => 'v'
  | constant => 'K'
  | enumMember => 'e'
  | struct => 'S'
  | object => 'O'
  | typeParameter => 'T'
  | _ => '?'

end Kind

end Outline
