import Entitlement.Directory.Memory

/-!
# Scripted directories

A store behind two queues of prepared answers and a record of the reading calls. A prepared answer
is given instead of asking the store, which lets a run meet a directory that fails or changes.
-/

namespace Entitlement

inductive DirectoryCall where
  | list (kind : Option String) (context : Option String)
  /-- Every argument of a request is given in its place. -/
  | read (request : PermissionRequest)
  /-- Only some of the optional arguments are given, each by its name. -/
  | readNamed (object operation : String) (named : List (String × Value))

structure ScriptedDirectory where
  store : Store
  listings : List (Except Fault (List Row))
  readings : List (Except Fault (Option Permission))
  calls : List DirectoryCall

namespace ScriptedDirectory

def ofStore (store : Store) : ScriptedDirectory :=
  ⟨store, [], [], []⟩

def onStore {α : Type} (x : Action Store α) : Action ScriptedDirectory α :=
  x.within (·.store) fun directory store => { directory with store }

def note (call : DirectoryCall) : Action ScriptedDirectory Unit :=
  Action.update fun directory => { directory with calls := directory.calls ++ [call] }

def listLabelled (kind : Option String) (context : Option String) :
    Action ScriptedDirectory (List Row) := do
  note (.list kind context)
  match (← Action.read).listings with
  | answer :: rest =>
      Action.update fun directory => { directory with listings := rest }
      Action.ofResult answer
  | [] => onStore (Store.list (← Action.ofResult (HierarchyKind.parse kind)) context)

def readOnCall (call : DirectoryCall) (request : PermissionRequest) :
    Action ScriptedDirectory (Option Permission) := do
  note call
  match (← Action.read).readings with
  | answer :: rest =>
      Action.update fun directory => { directory with readings := rest }
      Action.ofResult answer
  | [] => onStore (Store.readPermission request)

def readPermission (request : PermissionRequest) :
    Action ScriptedDirectory (Option Permission) :=
  readOnCall (.read request) request

def prepareListings (answers : List (Except Fault (List Row))) : Action ScriptedDirectory Nat := do
  Action.update fun directory => { directory with listings := directory.listings ++ answers }
  return (← Action.read).listings.length

def prepareReadings (answers : List (Except Fault (Option Permission))) :
    Action ScriptedDirectory Nat := do
  Action.update fun directory => { directory with readings := directory.readings ++ answers }
  return (← Action.read).readings.length

def takeCalls : Action ScriptedDirectory (List DirectoryCall) := do
  let calls := (← Action.read).calls
  Action.update fun directory => { directory with calls := [] }
  return calls

def directory : Directory ScriptedDirectory where
  list kind := listLabelled (some kind.label)
  readPermission := readPermission

end ScriptedDirectory

end Entitlement
