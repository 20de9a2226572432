import AliasBook.Error.Template

/-! Error codes: a stable text for each thing that can go wrong, the template of its message and, for some, a
    suggestion. The codes in use form the catalogue. -/

namespace AliasBook

/-- What an error is about: the arguments of a call, the entries of a registry, or the surroundings. -/
inductive Category where
  | val
  | reg
  | sys
deriving DecidableEq

/-- The middle part of the codes of a category. -/
def Category.name : Category → String
  | .val => "VAL"
  | .reg => "REG"
  | .sys => "SYS"

/-- The category with the name. -/
def Category.ofName? (name : String) : Option Category :=
  [Category.val, .reg, .sys].find? (·.name = name)

/-- An error code, with the template of its message and the suggestion that goes with it, `null` if there is
    none. Codes that are made outside the catalogue may bring other values than texts for these two. -/
structure ErrorCode where
  code : String
  template : Value
  suggestion : Value := .null
  category : Option Category := none

namespace ErrorCode

/-- The template of the code filled with the values. The templates of the catalogue ask for nothing but the
    values that belong to them; one that cannot be filled would stand as it is. -/
def message (code : ErrorCode) (values : List (String × Value)) : String :=
  match code.template with
  | .text template => (Template.fill template values).toOption.getD template
  | template => template.display

def emptyValue : ErrorCode where
  code := "ALIAS-VAL-001"
  template := "'\x7bfield\x7d' must not be empty"
  suggestion := "Provide a non-blank string."
  category := some .val

def notCallable : ErrorCode where
  code := "ALIAS-VAL-002"
  template := "'\x7bfield\x7d' must be callable"
  category := some .val

def aliasConflict : ErrorCode where
  code := "ALIAS-REG-001"
  template := .text ("Cannot define alias '\x7balias\x7d' for name '\x7bname\x7d': " ++
    "It is already registered for name '\x7bexisting_name\x7d'.")
  suggestion := "Remove the existing alias first or enable alias overriding."
  category := some .reg

def resolvedConflict : ErrorCode where
  code := "ALIAS-REG-002"
  template := .text ("Cannot register resolved alias '\x7balias\x7d' (original: " ++
    "'\x7boriginal_alias\x7d') for name '\x7bname\x7d': It is already registered for name " ++
    "'\x7bexisting_name\x7d'.")
  suggestion := "Make sure the value resolver does not map distinct aliases onto one."
  category := some .reg

def circularAlias : ErrorCode where
  code := "ALIAS-REG-003"
  template := .text ("Cannot register alias '\x7balias\x7d' for name '\x7bname\x7d': Circular " ++
    "reference - '\x7bname\x7d' is a direct or indirect alias for '\x7balias\x7d' already")
  category := some .reg

def unknownAlias : ErrorCode where
  code := "ALIAS-REG-004"
  template := "No alias '\x7balias\x7d' registered"
  category := some .reg

def invalidSetting : ErrorCode where
  code := "ALIAS-SYS-001"
  template := "Invalid configuration value for \x7bkey\x7d: \x7bvalue!r\x7d"
  category := some .sys

/-- The codes in use, in the order of their texts. -/
def catalogue : List ErrorCode :=
  [aliasConflict, resolvedConflict, circularAlias, unknownAlias, invalidSetting, emptyValue,
    notCallable]

/-- The code of the catalogue with the given text. -/
def find? (code : String) : Option ErrorCode :=
  catalogue.find? (·.code = code)

end ErrorCode

end AliasBook
