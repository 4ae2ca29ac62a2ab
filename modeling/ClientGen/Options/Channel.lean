import ClientGen.Document.Record
import ClientGen.Text.LowerCase

/-!
# Channels

The channels on which methods are called. A channel is written by its name; where it is
given by hand, case does not matter.
-/

namespace ClientGen

/-- A channel on which methods are called. -/
inductive Channel where
  | jsonrpc
  | http
  | cron
deriving DecidableEq, Inhabited

namespace Channel

/-- The name of a channel. -/
def name : Channel → String
  | .jsonrpc => "jsonrpc"
  | .http => "http"
  | .cron => "cron"

/-- The channels. -/
def all : List Channel :=
  [.jsonrpc, .http, .cron]

/-- The channel with a name. -/
def ofName? (name : String) : Option Channel :=
  all.find? fun channel => channel.name = name

@[simp]
theorem ofName?_name (channel : Channel) :
  ofName? channel.name = some channel
  := by cases channel <;> decide

/-- The channel that a text names, in any case of letters, or else the wording of its
refusal. -/
def ofText (text : String) : Except String Channel :=
  let low := Text.lower text
  if low = "json-rpc" then .ok .jsonrpc
  else
    match ofName? low with
    | some channel => .ok channel
    | none => .error ("unknown channel \"" ++ low ++ "\"")

/-- The channel that a value writes. -/
def ofValue (v : Value) : Decoded Channel :=
  (v.toVariant .direct (all.map name)).map fun name => (ofName? name).getD .jsonrpc

end Channel

end ClientGen
