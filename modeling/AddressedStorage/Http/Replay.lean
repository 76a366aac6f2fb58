import AddressedStorage.Http.Client

/-!
# Http/Replay — a network that plays back answers

Each authority has a list of replies, one to a request; the last is given again and again, and an
authority without a list answers 404.  No answer redirects a request, so that each comes from the
address that was asked.  Nothing listens for encrypted connections, and which other authorities listen
is a parameter.
-/

namespace AddressedStorage.Http

/-- One recorded answer. -/
inductive Reply where
  /-- The connection ends without an answer. -/
  | close
  | answer (content : Answer)
  deriving DecidableEq

/-- The answers still to be given and the requests that arrived. -/
structure Replay where
  replies : List (String × List Reply)
  /-- The requests that arrived, oldest first, with their authorities. -/
  arrived : List (String × Request)
  /-- The seconds since the epoch. -/
  now : Int
  deriving Inhabited

namespace Replay

/-- The answer of an authority without a list. -/
def notFound : Reply := .answer ⟨404, [], some ByteArray.empty⟩

/-- What remains after one reply: the last stays. -/
def rest : List Reply → List Reply
  | _ :: next :: later => next :: later
  | replies => replies

/-- The next reply of an authority, and what remains. -/
def next (authority : String) :
    List (String × List Reply) → Reply × List (String × List Reply)
  | [] => (notFound, [])
  | (a, replies) :: others =>
    if a = authority then (replies.headD notFound, (a, rest replies) :: others)
    else
      let (reply, others) := next authority others
      (reply, (a, replies) :: others)

/-- Takes a request in. -/
def receive (listens : String → Bool) (r : Request) :
    StateM Replay (Except Failure Response) := do
  let authority := String.ofList r.url.authority
  if r.url.scheme = "https".toList || !listens authority then
    return .error (.unanswered .refused (some r.url))
  let s ← get
  let (reply, replies) := next authority s.replies
  set { s with replies, arrived := s.arrived ++ [(authority, r)] }
  match reply with
  | .close => return .error (.unanswered .closed (some r.url))
  | .answer content => return .ok { content with url := r.url }

/-- The playback as a network.  Waiting takes no time. -/
def network (listens : String → Bool) : Network Replay where
  send := receive listens
  wait _ := return
  now := return (← get).now

end Replay

end AddressedStorage.Http
