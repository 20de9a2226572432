/-! The variables that surround a program. -/

namespace AliasBook

/-- Variables with their texts. -/
abbrev Environment := List (String × String)

namespace Environment

/-- The text of a variable. -/
def get? (env : Environment) (key : String) : Option String := env.lookup key

/-- The variable that may forbid overriding. -/
def overridingKey : String := "ALIAS_ALLOW_OVERRIDING"

/-- The variable of the log level. -/
def levelKey : String := "ALIAS_LOG_LEVEL"

/-- The variable of the log format. -/
def formatKey : String := "ALIAS_LOG_FORMAT"

end Environment

end AliasBook
