import DocStore.Lock

/-!
# Sessions on a lock

The owners of tickets by name. An acquisition draws its ticket the first time it is looked at, and
holds the lock from the moment it sees the ticket granted until it is dropped.
-/

namespace DocStore

inductive Acquisition where
  | created
  | queued (ticket : Nat)
  | held (ticket : Nat)

namespace Acquisition

def poll (l : Lock) : Acquisition → Lock × Acquisition
  | .created =>
    let (l, n) := l.drawTicket
    (l, if l.isGranted n then .held n else .queued n)
  | .queued n => (l, if l.isGranted n then .held n else .queued n)
  | .held n => (l, .held n)

def drop (l : Lock) : Acquisition → Lock × List String
  | .created => (l, [])
  | .queued n | .held n => l.abandon n

end Acquisition

namespace Lock

structure Session where
  lock : Lock := {}
  acquisitions : List (String × Acquisition) := []

inductive Command where
  | perform (step : LockStep)
  /-- Begins an acquisition without looking at it. -/
  | create (name : String)
  | acquire (name : String)
  | poll (name : String)
  | drop (name : String)

inductive Reply where
  | done
  | acquired
  | pending
  | held
  | dropped
  | absent
deriving DecidableEq, Repr

def Reply.name : Reply → String
  | .done => "done"
  | .acquired => "acquired"
  | .pending => "pending"
  | .held => "held"
  | .dropped => "dropped"
  | .absent => "absent"

namespace Session

def find? (s : Session) (name : String) : Option Acquisition := s.acquisitions.lookup name

private def without (s : Session) (name : String) : List (String × Acquisition) :=
  s.acquisitions.filter fun (n, _) => n != name

/-- Keeps an acquisition under a name. One that had the name is dropped. -/
private def keep (s : Session) (name : String) (a : Acquisition) : Session × List String :=
  let acquisitions := (name, a) :: s.without name
  match s.find? name with
  | none => ({ s with acquisitions }, [])
  | some old =>
    let (lock, labels) := old.drop s.lock
    ({ lock, acquisitions }, labels)

/-- Performs a command: the session after it, the reply, and the callbacks that ran. -/
def execute (s : Session) : Command → Session × Reply × List String
  | .perform step =>
    let (lock, labels) := s.lock.run [step]
    ({ s with lock }, .done, labels)
  | .create name =>
    let (s, labels) := s.keep name .created
    (s, .done, labels)
  | .acquire name =>
    let (lock, a) := Acquisition.created.poll s.lock
    let reply := match a with
      | .held _ => .acquired
      | _ => .pending
    let (s, labels) := { s with lock }.keep name a
    (s, reply, labels)
  | .poll name =>
    match s.find? name with
    | none => (s, .absent, [])
    | some (.held _) => (s, .held, [])
    | some a =>
      let (lock, a) := a.poll s.lock
      let reply := match a with
        | .held _ => .acquired
        | _ => .pending
      ({ lock, acquisitions := (name, a) :: s.without name }, reply, [])
  | .drop name =>
    match s.find? name with
    | none => (s, .absent, [])
    | some a =>
      let (lock, labels) := a.drop s.lock
      ({ lock, acquisitions := s.without name }, .dropped, labels)

/-- Performs a command again and again; the reply is the last one. -/
def executeTimes (s : Session) (c : Command) : Nat → Session × Reply × List String
  | 0 => (s, .done, [])
  | 1 => s.execute c
  | n + 1 =>
    let (s, _, labels) := s.execute c
    let (s, reply, more) := s.executeTimes c n
    (s, reply, labels ++ more)

end Session

end Lock

end DocStore
