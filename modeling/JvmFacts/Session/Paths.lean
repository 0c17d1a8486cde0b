import JvmFacts.Session.Databases

/-!
What depends on whether a session keeps class path entries of its own.
-/

set_option autoImplicit false

namespace JvmFacts.Session

/-- An entry is taken in once. -/
def addEntry (entry : String) : Working Unit := do
  match (← get).paths with
  | .fixed => throw (.unsupported "add_classpath_entry")
  | .entries names =>
    if entry.isEmpty then throw (.other "empty classpath entry")
    if !names.contains entry then modify ({ · with paths := .entries (names ++ [entry]) })

def entries (s : Session) : List String :=
  match s.paths with
  | .fixed => []
  | .entries names => names

def clearClassCache : Working Unit := do
  match (← get).paths with
  | .fixed => throw (.unsupported "clear_class_context_cache")
  | .entries _ => modify purgeClasses

def summary (s : Session) : String :=
  match s.paths with
  | .fixed => "<unknown ClassContext stats>"
  | .entries names =>
    s!"{names.length} classpath entries, {s.run.methods.length} methods, " ++
      s!"{s.databaseCount} databases"

end JvmFacts.Session
