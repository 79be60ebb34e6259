import DocStore.Write

/-!
# Writes in progress

A write that is looked at from time to time. It asks for the lock when it is looked at first, holds
it from the moment it is granted, and may stop at every hook. Its owner may drop it at any time; the
lock is then passed on, and what was committed stays.
-/

namespace DocStore

/-- Hooks that have still to run, and how often the first of them is still looked at in vain. -/
structure Pending where
  pauses : Nat
  hooks : List Hook

def Pending.start (visit : Visit) : List Hook → Pending
  | [] => ⟨0, []⟩
  | h :: rest => ⟨h.pauses visit, h :: rest⟩

inductive Task where
  | fresh (source : Source) (request : Request)
  | waiting (ticket : Nat) (source : Source) (job : Job)
  | before (ticket : Nat) (c : Commit) (pending : Pending)
  | after (ticket : Nat) (c : Commit) (pending : Pending)
  | done (result : Reply)
  | dropped

inductive Progress where
  | stopped (pending : Pending)
  | finished
  | failed (e : Error)

/-- A model and a task on it after a look, and what was left behind. -/
structure Look where
  model : Model
  task : Task
  notices : List Notice := []

def Look.leaving (notices : List Notice) (look : Look) : Look :=
  { look with notices := notices ++ look.notices }

namespace Task

def advance (m : Model) (visit : Visit) : Nat → List Hook → Progress × List Notice
  | _, [] => (.finished, [])
  | pauses + 1, hooks => (.stopped ⟨pauses, hooks⟩, [])
  | 0, h :: rest =>
    match h.check visit.document with
    | .error e => (.failed e, [m.notice h.label visit.document])
    | .ok () =>
      let (progress, notices) := advance m visit (Pending.start visit rest).pauses rest
      (progress, m.notice h.label visit.document :: notices)

/-- Ends a task and gives its ticket back. -/
def finish (m : Model) (ticket : Nat) (result : Reply) : Look :=
  { model := { m with lock := (m.lock.abandon ticket).1 }, task := .done result }

def goAfter (m : Model) (ticket : Nat) (c : Commit) (pending : Pending) : Look :=
  match advance m ⟨ticket, c.document⟩ pending.pauses pending.hooks with
  | (.stopped pending, notices) => { model := m, task := .after ticket c pending, notices }
  | (.finished, notices) => (finish m ticket (.ok c.document)).leaving notices
  | (.failed e, notices) => (finish m ticket (.error e)).leaving notices

/-- Goes on with the hooks before a commit, and commits when they are through. -/
def goBefore (m : Model) (ticket : Nat) (c : Commit) (pending : Pending) : Look :=
  match advance m ⟨ticket, c.document⟩ pending.pauses pending.hooks with
  | (.stopped pending, notices) => { model := m, task := .before ticket c pending, notices }
  | (.failed e, notices) => (finish m ticket (.error e)).leaving notices
  | (.finished, notices) =>
    let (m, told) := m.commit (.commit c)
    let after := Pending.start ⟨ticket, c.document⟩ (m.hooks .after c.change.action)
    (goAfter m ticket c after).leaving (notices ++ told)

def goLocked (m : Model) (ticket : Nat) (source : Source) (job : Job) : Look :=
  match m.plan source job with
  | .error e => finish m ticket (.error e)
  | .ok (.load collection) => finish (m.commit (.load collection)).1 ticket (.ok none)
  | .ok (.commit c) =>
    goBefore m ticket c
      (Pending.start ⟨ticket, c.document⟩ (m.hooks .before c.change.action))

/-- Looks at a task: it goes on as far as it can. -/
def poll (m : Model) : Task → Look
  | .fresh source request =>
    match m.prepare request with
    | .error e => { model := m, task := .done (.error e) }
    | .ok job =>
      let (lock, ticket) := m.lock.drawTicket
      let m := { m with lock }
      if lock.isGranted ticket then goLocked m ticket source job
      else { model := m, task := .waiting ticket source job }
  | .waiting ticket source job =>
    if m.lock.isGranted ticket then goLocked m ticket source job
    else { model := m, task := .waiting ticket source job }
  | .before ticket c pending => goBefore m ticket c pending
  | .after ticket c pending => goAfter m ticket c pending
  | .done result => { model := m, task := .done result }
  | .dropped => { model := m, task := .dropped }

/-- Drops a task that has not ended. -/
def drop (m : Model) : Task → Model × Task
  | .fresh _ _ => (m, .dropped)
  | .waiting ticket _ _ | .before ticket _ _ | .after ticket _ _ =>
    ({ m with lock := (m.lock.abandon ticket).1 }, .dropped)
  | .done result => (m, .done result)
  | .dropped => (m, .dropped)

def isOver : Task → Bool
  | .done _ | .dropped => true
  | _ => false

/-! ### Schedules -/

/-- A step of a schedule: the task with a number is looked at or dropped. -/
inductive Turn where
  | poll (n : Nat)
  | drop (n : Nat)
deriving DecidableEq, Repr

structure Pool where
  model : Model
  tasks : List Task

/-- Takes a turn. A turn of a task that there is not changes nothing. -/
def Pool.take (pool : Pool) : Turn → Pool × List Notice
  | .poll n =>
    match pool.tasks[n]? with
    | some task =>
      let look := task.poll pool.model
      ({ model := look.model, tasks := pool.tasks.set n look.task }, look.notices)
    | none => (pool, [])
  | .drop n =>
    match pool.tasks[n]? with
    | some task =>
      let (model, task) := task.drop pool.model
      ({ model, tasks := pool.tasks.set n task }, [])
    | none => (pool, [])

def Pool.run (pool : Pool) : List Turn → Pool × List Notice
  | [] => (pool, [])
  | turn :: rest =>
    let (pool, notices) := pool.take turn
    let (pool, more) := pool.run rest
    (pool, notices ++ more)

def Pool.isOver (pool : Pool) : Bool := pool.tasks.all Task.isOver

def Pool.round (pool : Pool) : Pool × List Notice :=
  pool.run ((List.range pool.tasks.length).map .poll)

/-- Goes round by round until every task is over. After the round with the number `turn` the tasks
of `leaving` are dropped. The fuel bounds the rounds. -/
def Pool.rounds (turn : Option Nat) (leaving : List Nat) : Nat → Nat → Pool → Pool × List Notice
  | 0, _, pool => (pool, [])
  | fuel + 1, n, pool =>
    if pool.isOver then (pool, [])
    else
      let (pool, notices) := pool.round
      let pool := if turn == some n then (pool.run (leaving.map .drop)).1 else pool
      let (pool, more) := Pool.rounds turn leaving fuel (n + 1) pool
      (pool, notices ++ more)

end Task

end DocStore
