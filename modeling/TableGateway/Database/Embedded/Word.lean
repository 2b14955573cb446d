namespace TableGateway.Embedded

def reservedWords : List String :=
  ["add", "all", "alter", "and", "as", "autoincrement", "between", "case", "check", "collate",
   "commit", "constraint", "create", "default", "deferrable", "delete", "distinct", "drop", "else",
   "escape", "except", "exists", "foreign", "from", "group", "having", "in", "index", "insert",
   "intersect", "into", "is", "isnull", "join", "limit", "not", "nothing", "notnull", "null", "on",
   "or", "order", "primary", "references", "returning", "select", "set", "table", "then", "to",
   "transaction", "union", "unique", "update", "using", "values", "when", "where"]

/-- The words that begin an expression, which does not go on with an equals sign. -/
def openingWords : List String :=
  ["case", "cast", "exists", "not", "raise"]

/-- The words that are values where no column has their name. -/
def valueWords : List String :=
  ["null", "true", "false", "current_date", "current_time", "current_timestamp"]

def isReserved (word : String) : Bool :=
  reservedWords.contains word.toLower

def isOpening (word : String) : Bool :=
  openingWords.contains word.toLower

def isValueWord (word : String) : Bool :=
  valueWords.contains word.toLower

def nearMessage (word : String) : String :=
  "near \"" ++ word ++ "\": syntax error"

def tableNameFault? (name : String) : Option String :=
  if isReserved name then some (nearMessage name) else none

def comparedFault? (word : String) : Option String :=
  if isOpening word then some (nearMessage "=")
  else if isReserved word && !isValueWord word then some (nearMessage word)
  else none

end TableGateway.Embedded
