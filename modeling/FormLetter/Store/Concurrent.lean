import FormLetter.Store.Memory

/-!
# Calls at the same time

Calls that share the stores in memory take their steps in any order. A creation takes two: it takes
its id, and later it inserts the row under the lock of the table. Every other call is one step under
the lock. A call that is given up goes no further than it has come.
-/

namespace FormLetter

/-- How far a call has come; a creation that holds an id has yet to insert its row. -/
inductive CallStage where
  | waiting (call : StoreCall)
  | holding (new : NewTemplate) (id : Int) (now : Timestamp)
  | answered (call : StoreCall) (reply : Except StoreError call.Reply)

/-- What a step does to the stores. -/
inductive StoreEvent where
  | took (id : Int)
  | inserted (new : NewTemplate) (id : Int) (now : Timestamp)
  | performed (now : Timestamp) (call : StoreCall)

/-- The stores in memory, with the calls that share them. -/
structure SharedMemory where
  memory : Memory
  calls : List CallStage

namespace SharedMemory

def start (calls : List StoreCall) : SharedMemory :=
  ⟨.empty, calls.map .waiting⟩

def take (shared : SharedMemory) (n : Nat) (new : NewTemplate) (now : Timestamp) :
    SharedMemory :=
  let (id, templates) := shared.memory.templates.takeId
  { memory := { shared.memory with templates := templates }
    calls := shared.calls.set n (.holding new id now) }

def insert (shared : SharedMemory) (n : Nat) (new : NewTemplate) (id : Int) (now : Timestamp) :
    SharedMemory :=
  let template := new.toTemplate id now
  { memory := { shared.memory with templates := shared.memory.templates.insert template }
    calls := shared.calls.set n (.answered (.createTemplate new) (.ok template)) }

def perform (shared : SharedMemory) (n : Nat) (now : Timestamp) (call : StoreCall) :
    SharedMemory :=
  let (reply, memory) := shared.memory.perform now call
  { memory := memory
    calls := shared.calls.set n (.answered call reply) }

/-- One of the calls takes its next step. -/
inductive Step (shared : SharedMemory) : StoreEvent → SharedMemory → Prop where
  | take {n : Nat} {new : NewTemplate} (now : Timestamp)
      (h : shared.calls[n]? = some (.waiting (.createTemplate new))) :
      shared.Step (.took (shared.memory.templates.lastId + 1)) (shared.take n new now)
  | insert {n : Nat} {new : NewTemplate} {id : Int} {now : Timestamp}
      (h : shared.calls[n]? = some (.holding new id now)) :
      shared.Step (.inserted new id now) (shared.insert n new id now)
  | perform {n : Nat} {call : StoreCall} (now : Timestamp)
      (h : shared.calls[n]? = some (.waiting call))
      (hwhole : ∀ new, call ≠ .createTemplate new) :
      shared.Step (.performed now call) (shared.perform n now call)

/-- What the calls may have come to after some steps, and what these steps have done in order. -/
inductive Run (calls : List StoreCall) : List StoreEvent → SharedMemory → Prop where
  | start : Run calls [] (start calls)
  | step {events : List StoreEvent} {event : StoreEvent} {shared next : SharedMemory}
      (h : Run calls events shared) (hstep : shared.Step event next) :
      Run calls (events ++ [event]) next

end SharedMemory

end FormLetter
