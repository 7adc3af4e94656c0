import UserDirectory.Bus
import UserDirectory.Number
import UserDirectory.Url

/-!
# Bus.Redis — announcing events over Redis

* `Redis.isUsable`: whether a URL names a server or a socket.
* `Redis.Command`, `Redis.Reply`: what is sent, and what comes back, if anything does.
* `Redis.publish`, `Redis.ping`: one exchange with the server, if the network reaches it.
-/

namespace UserDirectory

/-- Whether other hosts can be reached. -/
inductive Network where
  | reachable
  | unreachable
deriving DecidableEq, Repr

namespace Redis

/-- A command as its words. -/
abbrev Command := List String

/-- What a server answers; a silent one never does. -/
inductive Reply where
  | nil
  | integer (n : Int)
  | text (s : String)
  | error (message : String)
  | silent
deriving DecidableEq, Repr

/-- How a publisher reaches its server: the channel, the deadline of a call in milliseconds, and
the number of connections. -/
structure Config where
  channel : String
  publishTimeout : Nat
  maxSize : Nat
deriving DecidableEq, Repr

/-- A configuration that says nothing but the channel. -/
def Config.ofChannel (channel : String) : Config := ⟨channel, 3000, 4⟩

/-! ## Places -/

/-- Whether a text is an integer of 64 bits. -/
def isInteger (t : List Char) : Bool :=
  ((Text.integer? (twoPow 64) t).filter (fitsSigned 64)).isSome

/-- Whether the query asks for a version of the protocol that there is, or for none. -/
def hasProtocol (u : Url) : Bool :=
  match u.value? "protocol".toList with
  | none => true
  | some v => ["2".toList, "resp2".toList, "3".toList, "resp3".toList].contains v

/-- Whether a host can be that of a server; the unspecified address cannot. -/
def isServerHost : Url.Host → Bool
  | .name t => !t.isEmpty
  | .ipv6 pieces => pieces.any (· != 0)

/-- Whether a path is the number of a database, or empty; slashes at its ends do not count. -/
def isDatabasePath (segments : List (List Char)) : Bool :=
  match ((segments.dropWhile List.isEmpty).reverse.dropWhile List.isEmpty).reverse with
  | [] => true
  | [number] => isInteger number
  | _ => false

/-- Whether a URL names a server: it has a host, the path is the number of a database, and the
credentials are text. -/
def isServer (u : Url) : Bool :=
  (u.host.map isServerHost).getD false && (u.path.map isDatabasePath).getD false
    && Url.isDecodable u.username && Url.isDecodable u.password && hasProtocol u

/-- Whether a URL names a socket on this host by an absolute path; the query has the number of
the database. -/
def isSocket (u : Url) : Bool :=
  (u.host.isNone || u.host == some (.name "localhost".toList))
    && (u.path.map fun segments => !segments.isEmpty).getD false
    && ((u.value? "db".toList).map isInteger).getD true && hasProtocol u

/-- Whether a URL names a server or a socket.  Servers behind TLS are none, for want of TLS. -/
def isUsable (url : String) : Bool :=
  match Url.read? url.toList with
  | none => false
  | some u =>
    if ["redis".toList, "valkey".toList].contains u.scheme then isServer u
    else
      ["unix".toList, "redis+unix".toList, "valkey+unix".toList].contains u.scheme && isSocket u

/-- Why there is no publisher for a URL. -/
def connect (url : String) : Except PublishError Unit :=
  if isUsable url then .ok () else .error (.connection "unusable URL")

/-! ## Exchanges -/

/-- What came of a call, and the commands that the server received. -/
structure Exchange where
  result : Except PublishError Unit
  commands : List Command

/-- A call that never got a connection. -/
def noConnection : Exchange := ⟨.error (.connection "Timed out in bb8"), []⟩

/-- A delivery that failed, for whatever reason. -/
def undelivered (reason : String) : Except PublishError Unit := .error (.delivery reason)

/-- The command that announces an event. -/
def publishCommand (channel : String) (e : Event) : Command := ["PUBLISH", channel, e.payload]

/-- What a reply to an announcement means: it has to be the number of receivers. -/
def publishResult : Reply → Except PublishError Unit
  | .integer _ => .ok ()
  | .text s => if isInteger s.toList then .ok () else undelivered "reply is not a number"
  | .nil => undelivered "reply is empty"
  | .error m => undelivered m
  | .silent => .error .timeout

/-- Announces an event. -/
def publish (net : Network) (channel : String) (e : Event) (reply : Reply) : Exchange :=
  match net with
  | .unreachable => noConnection
  | .reachable => ⟨publishResult reply, [publishCommand channel e]⟩

/-- A text as a reply to a ping. -/
def pong (s : String) : Except PublishError Unit :=
  if s = "PONG" then .ok () else .error (.connection ("unexpected PING reply: " ++ s))

/-- What a reply to a ping means. -/
def pingResult : Reply → Except PublishError Unit
  | .text s => pong s
  | .integer n => pong (String.ofList (Text.intDigits n))
  | .nil => undelivered "reply is empty"
  | .error m => undelivered m
  | .silent => .error .timeout

/-- Asks whether the server is there. -/
def ping (net : Network) (reply : Reply) : Exchange :=
  match net with
  | .unreachable => noConnection
  | .reachable => ⟨pingResult reply, [["PING"]]⟩

/-- Shuts a publisher down, which needs no server. -/
def close : Exchange := ⟨.ok (), []⟩

/-- The publisher on a channel of a server that gives every command the same reply. -/
def publisher (π : Type) (net : Network) (channel : String) (reply : Reply) : Publisher π where
  publish e s := ⟨(publish net channel e reply).result, [], s⟩
  ping _ := (ping net reply).result
  close _ := close.result

end Redis
end UserDirectory
