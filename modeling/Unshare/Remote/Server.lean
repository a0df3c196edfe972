import Unshare.Remote.Basic

namespace Unshare.Remote

structure Server where
  reaches : Url → Bool
  toPosts : List Reply
  toOthers : List Reply
  received : List Request

namespace Server

-- The reply of a server that has none prepared.
def unprepared : Reply :=
  .answered 500 (.plain [])

-- Statuses whose answers never have a body.
def isBodiless (status : Nat) : Bool :=
  status = 204 || status = 304

def onWire : Reply → Reply
  | .answered status body => .answered status (if isBodiless status then .plain [] else body)
  | other => other

def answerPost (s : Server) : Reply × Server :=
  match s.toPosts with
  | [] => (unprepared, s)
  | reply :: rest => (reply, { s with toPosts := rest })

def answerOther (s : Server) : Reply × Server :=
  match s.toOthers with
  | [] => (unprepared, s)
  | reply :: rest => (reply, { s with toOthers := rest })

-- Takes a request in and answers it.
def exchange (r : Request) (s : Server) : Reply × Server :=
  if s.reaches r.url then
    let noted := { s with received := s.received ++ [r] }
    let (reply, after) := if r.method = "POST" then answerPost noted else answerOther noted
    (onWire reply, after)
  else (.unreachable, s)

end Server

end Unshare.Remote
