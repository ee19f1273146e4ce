import Telekio.Identity.Locations

/-!
# Task ids and spawn locations of guests

A guest draws the id of a task and captures where it is spawned; the host
hands both to its Tokio in thread-locals (`with_telekio` and `forward`), from
which Tokio takes them when it asks for an id, a location or a tracing span.
What Tokio does in a spawn is not known: it may ask in any order and any number
of times, run code of the user that spawns tasks again, and panic anywhere.
Locations and spans are those of a build with `tokio_unstable`.
-/

namespace Telekio.Identity

open Telekio.Abi (Payload panicMessage)

/-- What a guest hands over. An id is told by the number of the call of
`Id::next_local` that has made it. -/
structure Override where
  id : Nat
  location : Place
deriving DecidableEq, Repr

/-- `TASK_ID`, `TASK_LOCATION` and `FORWARDED`. -/
structure Locals where
  taskId : Option Nat
  taskLocation : Option Place
  forwarded : Bool
deriving DecidableEq, Repr

/-- Outside of all calls. -/
def Locals.clean : Locals :=
  ⟨none, none, false⟩

/-- Something that Tokio has asked for, whether a guest has handed it over,
and the innermost scope that the thread was in. -/
structure Obtained (κ α : Type) where
  value : α
  handed : Bool
  scope : Option κ
deriving DecidableEq, Repr

/-- `drawn` ids have been made and `poisoned` is the mutex of the interned
locations; other threads change both. The rest is history: the spawns of
guests and the forwarded calls that the thread is in, innermost first, how many
calls were forwarded, and what Tokio has obtained: the ids and the locations
with the spawn, the spans with the forwarded call. A span that is handed over
is none of the host, as the guest has its own. -/
structure Thread where
  drawn : Nat
  poisoned : Bool
  locals : Locals
  spawns : List Override
  calls : List Nat
  forwards : Nat
  ids : List (Obtained Override Nat)
  locations : List (Obtained Override Place)
  spans : List (Obtained Nat Unit)
deriving DecidableEq, Repr

/-- What a thread runs. Tokio asks with `next`, `capture` and `task`.
`guestSpawn` is the spawn of a guest, `earlier` what the guest does between
drawing the id and calling the host, and `body` the host's
`Handle::spawn`; with a `refusal` the host does not get there, `body` is the
drop of the task, and the guest panics. `guestBlockOn` is a `block_on` that a
guest forwards. -/
inductive Code where
  | skip
  | elapse (draws : Nat) (poisons : Bool)
  | panic (payload : Payload)
  | andThen (first rest : Code)
  | catches (body : Code)
  | next
  | capture (site : Place)
  | task
  | guestSpawn (site : Place) (earlier : Code) (refusal : Option Payload)
      (body : Code)
  | guestBlockOn (body : Code)

namespace Thread

variable (thread : Thread)

/-- A thread of a host in which some ids have been made. -/
def start (drawn : Nat) (poisoned : Bool) : Thread where
  drawn := drawn
  poisoned := poisoned
  locals := .clean
  spawns := []
  calls := []
  forwards := 0
  ids := []
  locations := []
  spans := []

def setLocals (locals : Locals) : Thread :=
  { thread with locals := locals }

/-- What other threads have done meanwhile. -/
def elapse (draws : Nat) (poisons : Bool) : Thread :=
  { thread with
    drawn := thread.drawn + draws
    poisoned := thread.poisoned || poisons }

/-- `Id::next_local`. -/
def nextLocal : Thread :=
  { thread with drawn := thread.drawn + 1 }

def obtainId (id : Nat) (handed : Bool) : Thread :=
  { thread with
    locals := { thread.locals with taskId := none }
    ids := thread.ids ++ [⟨id, handed, thread.spawns.head?⟩] }

def obtainLocation (location : Place) (handed : Bool) : Thread :=
  { thread with
    locals := { thread.locals with taskLocation := none }
    locations :=
      thread.locations ++ [⟨location, handed, thread.spawns.head?⟩] }

/-- `Id::next`. -/
def next : Thread :=
  match thread.locals.taskId with
  | some id => thread.obtainId id true
  | none => thread.nextLocal.obtainId thread.drawn false

/-- `SpawnLocation::capture`. -/
def capture (site : Place) : Thread :=
  match thread.locals.taskLocation with
  | some location => thread.obtainLocation location true
  | none => thread.obtainLocation site false

/-- `trace::task` and `trace::blocking_task`. -/
def task : Thread :=
  { thread with
    locals := { thread.locals with forwarded := false }
    spans := thread.spans ++
      [⟨(), thread.locals.forwarded, thread.calls.head?⟩] }

/-- `intern`, by what it does to a place. -/
def intern (place : Place) : Except Payload Unit × Thread :=
  if thread.poisoned then (.error poisonError, thread)
  else if 0 ∈ place.file then
    (.error containsNul, { thread with poisoned := true })
  else (.ok (), thread)

end Thread

/-- Code that returns or unwinds. -/
abbrev Run :=
  Thread → Except Payload Unit × Thread

namespace Run

def pure : Run := fun thread => (.ok (), thread)

def throw (payload : Payload) : Run := fun thread =>
  (.error payload, thread)

def andThen (first rest : Run) : Run := fun thread =>
  match first thread with
  | (.ok (), between) => rest between
  | (.error payload, between) => (.error payload, between)

/-- `catch_unwind` of the user. -/
def catches (call : Run) : Run := fun thread =>
  (.ok (), (call thread).2)

/-- A panic of the host reaches a guest as its message. -/
def told (call : Run) : Run := fun thread =>
  match call thread with
  | (.ok (), after) => (.ok (), after)
  | (.error payload, after) => (.error (.string (panicMessage payload)), after)

/-- A call with its `Reset`, which is dropped however the call ends. -/
def reset (restore : Locals → Locals) (call : Run) : Run := fun thread =>
  let ended := call thread
  (ended.1, ended.2.setLocals (restore ended.2.locals))

/-- A call inside a forwarded one. -/
def within (call : Run) : Run := fun thread =>
  let ended := call
    { thread with
      calls := thread.forwards :: thread.calls
      forwards := thread.forwards + 1 }
  (ended.1, { ended.2 with calls := thread.calls })

/-- `forward`. -/
def forward (call : Run) : Run := fun thread =>
  reset (fun locals => { locals with forwarded := thread.locals.forwarded })
    (within call)
    (thread.setLocals { thread.locals with forwarded := true })

/-- A call inside the spawn of a guest. -/
def inside (override : Override) (call : Run) : Run := fun thread =>
  let ended := call { thread with spawns := override :: thread.spawns }
  (ended.1, { ended.2 with spawns := thread.spawns })

def idActive : Payload :=
  .str "Tokio task ID override is already active"

def locationActive : Payload :=
  .str "Tokio spawn location override is already active"

/-- The assertions of `with_telekio`, and its call. -/
def checked (before : Locals) (call : Run) : Run :=
  if before.taskId.isSome then throw idActive
  else if before.taskLocation.isSome then throw locationActive
  else call

/-- `Id::with_telekio`. The id is one that was drawn, so it is not zero. -/
def withTelekio (override : Override) (call : Run) : Run := fun thread =>
  reset (fun locals =>
      { locals with
        taskId := thread.locals.taskId
        taskLocation := thread.locals.taskLocation })
    (checked thread.locals (inside override call))
    (thread.setLocals
      { thread.locals with
        taskId := some override.id
        taskLocation := some override.location })

/-- `with_task`. -/
def withTask (override : Override) (call : Run) : Run :=
  forward (withTelekio override call)

/-- The host interns the locations of guests. -/
def intern (place : Place) : Run := fun thread =>
  thread.intern place

/-- `spawn`, `spawn_local` and `spawn_blocking` of the host, and what a guest
makes of their results. -/
def spawnOnHost (override : Override) (refusal : Option Payload)
    (body : Run) : Run :=
  match refusal with
  | some payload =>
      andThen (told (andThen (intern override.location) body)) (throw payload)
  | none =>
      told (andThen (intern override.location) (withTask override body))

/-- A guest draws an id and spawns a task with it. -/
def guestSpawn (site : Place) (earlier : Run) (refusal : Option Payload)
    (body : Run) : Run := fun thread =>
  andThen earlier (spawnOnHost ⟨thread.drawn, site⟩ refusal body)
    thread.nextLocal

end Run

/-- What the thread does. -/
def Code.run : Code → Run
  | .skip => .pure
  | .elapse draws poisons => fun thread =>
      (.ok (), thread.elapse draws poisons)
  | .panic payload => .throw payload
  | .andThen first rest => .andThen first.run rest.run
  | .catches body => .catches body.run
  | .next => fun thread => (.ok (), thread.next)
  | .capture site => fun thread => (.ok (), thread.capture site)
  | .task => fun thread => (.ok (), thread.task)
  | .guestSpawn site earlier refusal body =>
      .guestSpawn site earlier.run refusal body.run
  | .guestBlockOn body => .told (.forward body.run)

section Obtained

variable {κ α : Type} [DecidableEq κ]

/-- What was obtained directly in a scope. -/
def obtainedIn (scope : κ) (list : List (Obtained κ α)) :
    List (Obtained κ α) :=
  list.filter (·.scope = some scope)

/-- The first is what a guest has handed over, and no other is. -/
def FirstHanded (given : α) : List (Obtained κ α) → Prop
  | [] => True
  | first :: rest =>
      first.value = given ∧ first.handed = true ∧
        ∀ other ∈ rest, other.handed = false

/-- In each scope what a guest hands over there goes to the first that asks,
and outside of scopes nothing is handed over. -/
structure Delivers (given : κ → α) (list : List (Obtained κ α)) :
    Prop where
  inside : ∀ scope, FirstHanded (given scope) (obtainedIn scope list)
  outside : ∀ got ∈ list, got.scope = none → got.handed = false

end Obtained

/-- What the thread-locals come to: each spawn of a guest hands its id and its
location to the first that asks for one in it, and to no other; no id is
obtained twice; each forwarded call leaves out the first span in it, and no
other; and the thread-locals are clean again. -/
structure HandedOver (thread : Thread) : Prop where
  ids : Delivers Override.id thread.ids
  locations : Delivers Override.location thread.locations
  distinct : (thread.ids.map Obtained.value).Nodup
  spans : Delivers (fun _ => ()) thread.spans
  clean : thread.locals = .clean

end Telekio.Identity
