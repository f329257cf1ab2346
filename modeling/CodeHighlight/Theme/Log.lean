import CodeHighlight.Theme.Store

/-! # The log of a theme store

What a store answers follows from the calls that were made on it: of each id the last registration
counts, and of the defaults the last one.
-/
namespace CodeHighlight

inductive StoreCall where
  | register (theme : Theme)
  | registerAs (name : String) (theme : Theme)
  | setDefault (id : String)

namespace StoreCall

def apply (store : ThemeStore) : StoreCall → ThemeStore
  | register theme => (store.register theme).2
  | registerAs name theme => (store.registerAs name theme).2
  | setDefault id => store.setDefault id

def replay (calls : List StoreCall) : ThemeStore := calls.foldl apply .empty

/-- The id that a call files a theme under, with the theme. -/
def registration? : StoreCall → Option (String × Theme)
  | register theme =>
    some (normalizeThemeId (if theme.id = "" then defaultThemeId else theme.id), theme)
  | registerAs name theme => some (normalizeThemeId name, theme)
  | setDefault _ => none

/-- The call files a theme under the id. -/
def Files (call : StoreCall) (id : String) : Prop :=
  ∃ theme, call.registration? = some (id, theme)

/-- The theme of the last call that filed one under the id. It has that id, and its name and styles
are those of that call alone. -/
def Latest (calls : List StoreCall) (id : String) (theme : Theme) : Prop :=
  ∃ earlier call later filed, calls = earlier ++ call :: later ∧
    call.registration? = some (id, filed) ∧ (∀ other ∈ later, ¬ other.Files id) ∧
    theme = { filed with id }

/-- The theme that was last filed under an id, with that id. -/
def lastTheme? (calls : List StoreCall) (id : String) : Option Theme :=
  calls.reverse.findSome? fun call =>
    call.registration?.bind fun (filed, theme) =>
      if filed = id then some { theme with id } else none

def lastDefault (calls : List StoreCall) : String :=
  (calls.reverse.findSome? fun
    | setDefault id => some (normalizeThemeId id)
    | _ => none).getD defaultThemeId

/-- The ids that are asked for in turn when a theme is chosen. -/
def wanted (calls : List StoreCall) (name : Option String) : List String :=
  (name.map normalizeThemeId).toList ++ [lastDefault calls, defaultThemeId]

/-- The theme that the log gives for a request. -/
def choose (calls : List StoreCall) (name : Option String) : Except Failure Theme :=
  match (wanted calls name).findSome? (lastTheme? calls) with
  | some theme => .ok theme
  | none => .error (.configuration defaultThemeId)

end StoreCall

/-- The second store is what calls and directories make of the first. -/
inductive ThemeStore.Leads (store : ThemeStore) : ThemeStore → Prop where
  | done : Leads store store
  | call {later : ThemeStore} (call : StoreCall) :
    Leads store later → Leads store (call.apply later)
  | loadDirectory {later : ThemeStore} (files : FileSystem) (directory : String) :
    Leads store later → Leads store (later.loadDirectory files directory).2

/-- The stores that calls and directories lead to. -/
inductive ThemeStore.Reachable : ThemeStore → Prop where
  | empty : Reachable .empty
  | withBuiltins : Reachable .withBuiltins
  | call {store : ThemeStore} (call : StoreCall) : Reachable store → Reachable (call.apply store)
  | loadDirectory {store : ThemeStore} (files : FileSystem) (directory : String) :
    Reachable store → Reachable (store.loadDirectory files directory).2

end CodeHighlight
