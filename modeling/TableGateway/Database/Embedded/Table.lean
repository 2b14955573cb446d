namespace TableGateway.Embedded

def schemaColumns : List String :=
  ["type", "name", "tbl_name", "rootpage", "sql"]

def jsonColumns : List String :=
  ["key", "value", "type", "atom", "id", "parent", "fullkey", "path", "json", "root"]

def plainSettings : List String :=
  ["analysis_limit", "application_id", "automatic_index", "cell_size_check",
   "checkpoint_fullfsync", "compile_options", "count_changes", "data_version",
   "defer_foreign_keys", "empty_result_callbacks", "encoding", "foreign_keys", "freelist_count",
   "full_column_names", "fullfsync", "hard_heap_limit", "ignore_check_constraints",
   "legacy_alter_table", "query_only", "read_uncommitted", "recursive_triggers",
   "reverse_unordered_selects", "schema_version", "secure_delete", "short_column_names",
   "soft_heap_limit", "temp_store", "threads", "trusted_schema", "user_version", "writable_schema"]

def partSettings : List String :=
  ["auto_vacuum", "cache_size", "cache_spill", "journal_mode", "journal_size_limit",
   "locking_mode", "max_page_count", "page_count", "page_size", "synchronous"]

def otherSettings : List (String × List String) :=
  [("busy_timeout", ["timeout"]),
   ("collation_list", ["seq", "name"]),
   ("database_list", ["seq", "name", "file"]),
   ("default_cache_size", ["cache_size", "schema"]),
   ("foreign_key_check", ["table", "rowid", "parent", "fkid", "arg", "schema"]),
   ("foreign_key_list", ["id", "seq", "table", "from", "to", "on_update", "on_delete",
     "match", "arg", "schema"]),
   ("function_list", ["name", "builtin", "type", "enc", "narg", "flags"]),
   ("index_info", ["seqno", "cid", "name", "arg", "schema"]),
   ("index_list", ["seq", "name", "unique", "origin", "partial", "arg", "schema"]),
   ("index_xinfo", ["seqno", "cid", "name", "desc", "coll", "key", "arg", "schema"]),
   ("integrity_check", ["integrity_check", "arg", "schema"]),
   ("module_list", ["name"]),
   ("optimize", ["optimize", "arg"]),
   ("pragma_list", ["name"]),
   ("quick_check", ["quick_check", "arg", "schema"]),
   ("table_info", ["cid", "name", "type", "notnull", "dflt_value", "pk", "arg", "schema"]),
   ("table_list", ["schema", "name", "type", "ncol", "wr", "strict", "arg"]),
   ("table_xinfo", ["cid", "name", "type", "notnull", "dflt_value", "pk", "hidden", "arg",
     "schema"])]

def settings : List (String × List String) :=
  plainSettings.map (fun name => (name, [name])) ++
    partSettings.map (fun name => (name, [name, "schema"])) ++ otherSettings

def tables : List (String × List String) :=
  ["sqlite_master", "sqlite_schema", "sqlite_temp_master", "sqlite_temp_schema"].map
      (fun name => (name, schemaColumns)) ++
    ["json_each", "json_tree"].map (fun name => (name, jsonColumns)) ++
    settings.map fun (name, columns) => ("pragma_" ++ name, columns)

def rowNumberNames : List String :=
  ["rowid", "oid", "_rowid_"]

def columns? (table : String) : Option (List String) :=
  (tables.lookup table.toLower).map (· ++ rowNumberNames)

end TableGateway.Embedded
