import SmbClient.Error

/-!
# Directory queries (`resource/directory.rs`)

`Directory::query` returns a stream that is fed by a task (`fetch_loop`), which parks in
`wait_for_demand` until the stream asks for more or is dropped. They share a channel, a `Notify` and
a token, and interleave at every access: `Query.step` is one. `QueryDirectoryStream::new` spawns the
task and only then waits for the query lock. `Directory` is any number of queries on one directory.
-/

namespace Resource

open Msg

/-! ## `send_query` -/

structure QueryOptions where
  listDirectory : Bool
  bufferSize : ℕ
  maxTransactSize : ℕ

def QueryOptions.refusal (options : QueryOptions) : Option Error :=
  if options.listDirectory = false then some (.missingPermissions "file_list_directory")
  else if options.maxTransactSize < options.bufferSize then
    some (.invalidArgument
      s!"Buffer size {options.bufferSize} exceeds maximum transact size {options.maxTransactSize}")
  else none

abbrev QueryReply (α : Type) : Type := Except Error (Status × Except Error (List α))

def sendQueryResult {α : Type} (options : QueryOptions) : QueryReply α → Except Error (List α)
  | .error error => .error error
  | .ok (.success, output) => output
  | .ok (.noMoreFiles, _) => .ok []
  | .ok (.infoLengthMismatch, _) =>
    .error (.invalidArgument (s!"Provided query buffer size {options.bufferSize} is too small " ++
      "to contain directory information"))
  | .ok (status, _) => .error (.unexpectedMessageStatus status.code)

def pageItems {α : Type} : Except Error (List α) → List (Except Error α)
  | .ok items => items.map .ok
  | .error error => [.error error]

/-! ## The points of the two tasks -/

inductive FetchPoint (α : Type) where
  /-- In `send_query`, before the request is submitted. -/
  | asking
  /-- The request is submitted, and `send_query` has not returned. -/
  | asked
  /-- At `sender.send`, with the items of the page that come after. -/
  | sending (item : Except Error α) (rest : List (Except Error α))
  /-- About to poll `cancelled()` in `wait_for_demand`. -/
  | waiting
  /-- The token was not cancelled; about to poll `notified()`. -/
  | listening
  /-- Neither was ready. -/
  | parked
  /-- `notified()` was ready; about to look at the token again. -/
  | woken
  | ended

inductive StreamPoint (α : Type) where
  /-- `new` waits for the query lock. -/
  | locking
  /-- No poll is under way. -/
  | idle
  /-- `poll_next` has received an item and is about to look whether there are more. -/
  | received (item : Except Error α)
  /-- `poll_next` has found the channel empty and is about to signal demand. -/
  | signalling (item : Except Error α)
  /-- `drop` has cancelled the token. -/
  | cancelled
  /-- `drop` has signalled; the fields are about to be dropped. -/
  | notified
  /-- The receiver is dropped, the lock is not released yet. -/
  | closed
  | gone
  /-- The future of `new` was dropped while it waited. -/
  | abandoned

namespace StreamPoint

variable {α : Type}

def receiving : StreamPoint α → Bool
  | .closed | .gone | .abandoned => false
  | _ => true

def alive : StreamPoint α → Bool
  | .idle | .received _ | .signalling _ => true
  | _ => false

def holdsLock : StreamPoint α → Bool
  | .locking | .gone | .abandoned => false
  | _ => true

def hand : StreamPoint α → List (Except Error α)
  | .received item | .signalling item => [item]
  | _ => []

end StreamPoint

namespace FetchPoint

variable {α : Type}

def pending : FetchPoint α → List (Except Error α)
  | .sending item rest => item :: rest
  | _ => []

def next : List (Except Error α) → FetchPoint α
  | [] => .waiting
  | item :: rest => .sending item rest

/-- After `send_query`: an empty page ends the loop. -/
def afterPage (page : Except Error (List α)) : FetchPoint α :=
  match pageItems page with
  | [] => .ended
  | item :: rest => .sending item rest

def awaiting : FetchPoint α → Bool
  | .waiting | .listening | .parked => true
  | _ => false

end FetchPoint

/-! ## One query -/

structure Query (α : Type) where
  options : QueryOptions
  fetch : FetchPoint α
  isFirst : Bool
  stream : StreamPoint α
  channel : List (Except Error α)
  cancelled : Bool
  /-- The `Notify`: a stored permit; whether the loop is registered, and whether it was notified. -/
  permit : Bool
  registered : Bool
  notified : Bool
  -- Not in the source: the pages `send_query` returned, the items `poll_next` returned and whether
  -- it returned the end of the stream, and the requests: submitted, returned from, submitted after
  -- the token was cancelled.
  pages : List (Except Error (List α))
  delivered : List (Except Error α)
  exhausted : Bool
  submitted : ℕ
  answered : ℕ
  late : ℕ

inductive QueryMove (α : Type) where
  /-- `send_query` submits its request, or refuses to. -/
  | submit
  /-- `send_query` fails before its request is submitted. -/
  | fail (error : Error)
  | answer (reply : QueryReply α)
  | push
  /-- The next access of `wait_for_demand`. -/
  | poll
  /-- `new` gets the query lock. -/
  | locked
  | abandon
  | recv
  | look
  | signal
  | cancel
  | notify
  | close
  | release

namespace Query

variable {α : Type}

def capacity : ℕ := 1024

def new (options : QueryOptions) : Query α where
  options
  fetch := .asking
  isFirst := true
  stream := .locking
  channel := []
  cancelled := false
  permit := false
  registered := false
  notified := false
  pages := []
  delivered := []
  exhausted := false
  submitted := 0
  answered := 0
  late := 0

variable (q : Query α)

/-- `Notify::notify_one`: a task that waits is notified, otherwise the permit is stored. -/
def notifyOne : Query α :=
  if q.registered && !q.notified then { q with notified := true } else { q with permit := true }

def take (page : Except Error (List α)) : Query α :=
  { q with isFirst := false, pages := q.pages ++ [page], fetch := .afterPage page }

def pollNotified : Query α :=
  if q.registered then
    if q.notified then { q with registered := false, notified := false, fetch := .woken }
    else { q with fetch := .parked }
  else if q.permit then { q with permit := false, fetch := .woken }
  else { q with registered := true, fetch := .parked }

/-- `wait_for_demand`; `select!` is biased. -/
def waitForDemand : Query α :=
  match q.fetch with
  | .waiting => if q.cancelled then { q with fetch := .ended } else { q with fetch := .listening }
  | .listening => q.pollNotified
  | .parked => { q with fetch := .waiting }
  | .woken => if q.cancelled then { q with fetch := .ended } else { q with fetch := .asking }
  | _ => q

/-- `sender.send`: it waits for room, and fails without a receiver. -/
def push (item : Except Error α) (rest : List (Except Error α)) : Query α :=
  if q.stream.receiving = false then { q with fetch := .ended }
  else if q.channel.length < capacity then
    { q with channel := q.channel ++ [item], fetch := .next rest }
  else q

/-- `poll_recv`: the next item, the end of the stream if the loop is gone, or nothing yet. -/
def recv : Query α :=
  match q.channel, q.fetch with
  | item :: channel, _ => { q with channel, stream := .received item }
  | [], .ended => { q with exhausted := true }
  | [], _ => q

def step : QueryMove α → Query α
  | .submit =>
    match q.fetch, q.options.refusal with
    | .asking, some error => q.take (.error error)
    | .asking, none =>
      { q with
        fetch := .asked
        submitted := q.submitted + 1
        late := if q.cancelled then q.late + 1 else q.late }
    | _, _ => q
  | .fail error =>
    match q.fetch with
    | .asking => q.take (.error error)
    | _ => q
  | .answer reply =>
    match q.fetch with
    | .asked => { q.take (sendQueryResult q.options reply) with answered := q.answered + 1 }
    | _ => q
  | .push =>
    match q.fetch with
    | .sending item rest => q.push item rest
    | _ => q
  | .poll => q.waitForDemand
  | .locked =>
    match q.stream with
    | .locking => { q with stream := .idle }
    | _ => q
  | .abandon =>
    match q.stream with
    | .locking => { q with stream := .abandoned, channel := [] }
    | _ => q
  | .recv =>
    match q.stream with
    | .idle => q.recv
    | _ => q
  | .look =>
    match q.stream with
    | .received item =>
      if q.channel.isEmpty then { q with stream := .signalling item }
      else { q with stream := .idle, delivered := q.delivered ++ [item] }
    | _ => q
  | .signal =>
    match q.stream with
    | .signalling item => { q.notifyOne with stream := .idle, delivered := q.delivered ++ [item] }
    | _ => q
  | .cancel =>
    match q.stream with
    | .idle => { q with stream := .cancelled, cancelled := true }
    | _ => q
  | .notify =>
    match q.stream with
    | .cancelled => { q.notifyOne with stream := .notified }
    | _ => q
  | .close =>
    match q.stream with
    | .notified => { q with stream := .closed, channel := [] }
    | _ => q
  | .release =>
    match q.stream with
    | .closed => { q with stream := .gone }
    | _ => q

def run (moves : List (QueryMove α)) : Query α := moves.foldl step q

end Query

/-! ## All queries of a directory -/

/-- A request that was submitted, and which other queries had a stream with the lock. -/
structure QueryRequest where
  query : ℕ
  restart : Bool
  live : List ℕ

structure Directory (α : Type) where
  queries : List (Query α)
  /-- The query lock: the query whose stream has it. -/
  owner : Option ℕ
  -- Not in the source: the requests submitted so far.
  requests : List QueryRequest

inductive DirectoryMove (α : Type) where
  | query (options : QueryOptions)
  | of (query : ℕ) (move : QueryMove α)

namespace Directory

variable {α : Type}

def new : Directory α := ⟨[], none, []⟩

variable (s : Directory α)

def live (i : ℕ) : List ℕ :=
  (List.range s.queries.length).filter fun j =>
    decide (j ≠ i) && (s.queries[j]?).any (·.stream.holdsLock)

def issued (i : ℕ) (q : Query α) : QueryMove α → List QueryRequest
  | .submit =>
    match q.fetch, q.options.refusal with
    | .asking, none => [⟨i, q.isFirst, s.live i⟩]
    | _, _ => []
  | _ => []

def ownerAfter (i : ℕ) (q : Query α) : QueryMove α → Option ℕ
  | .locked =>
    match q.stream with
    | .locking => some i
    | _ => s.owner
  | .release =>
    match q.stream with
    | .closed => none
    | _ => s.owner
  | _ => s.owner

/-- A move of a query has to wait: it is for the lock, and another stream has it. -/
def blocked : QueryMove α → Bool
  | .locked => s.owner.isSome
  | _ => false

def step : DirectoryMove α → Directory α
  | .query options => { s with queries := s.queries ++ [.new options] }
  | .of i move =>
    match s.queries[i]? with
    | none => s
    | some q =>
      if s.blocked move then s
      else
        { queries := s.queries.set i (q.step move)
          owner := s.ownerAfter i q move
          requests := s.requests ++ s.issued i q move }

def run (moves : List (DirectoryMove α)) : Directory α := moves.foldl step s

end Directory

end Resource
