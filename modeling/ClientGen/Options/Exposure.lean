import ClientGen.Options.Channel

/-!
# Exposure

An exposure tells on which channel each method is called: the entry of the method decides,
without one the entry of its class, and without that the channel is `jsonrpc`. Of several
entries of one name the first counts.
-/

namespace ClientGen

/-- The channel of a method. -/
structure MethodExposure where
  name : String
  channel : Channel
deriving DecidableEq

/-- The channels of the methods of a class: those of the listed methods, and the channel
of the others if there is one. -/
structure ClassExposure where
  name : String
  channel : Option Channel := none
  methods : List MethodExposure := []
deriving DecidableEq

/-- The channels of the methods of the listed classes. -/
structure Exposure where
  classes : List ClassExposure := []
deriving DecidableEq, Inhabited

/-- The channel of a method of an exposed class. -/
def ClassExposure.channelFor (c : ClassExposure) (method : String) : Channel :=
  match c.methods.find? fun m => m.name = method with
  | some m => m.channel
  | none => c.channel.getD .jsonrpc

namespace Exposure

/-- The channel of a method of a class. -/
def channelFor (e : Exposure) (className method : String) : Channel :=
  match e.classes.find? fun c => c.name = className with
  | some c => c.channelFor method
  | none => .jsonrpc

end Exposure

/-! ### Reading -/

/-- The channel of a method that a value writes. -/
def MethodExposure.ofValue (v : Value) : Decoded MethodExposure := do
  let r ← v.toRecord .direct "struct MethodExposure" ["name", "type"]
  let name := r.field Value.toStr "name"
  let channel := r.field Channel.ofValue "type"
  r.settle [name.required "name", channel.required "type"]
  return { name := ← name.value "name", channel := ← channel.value "type" }

/-- The exposure of a class that a value writes. -/
def ClassExposure.ofValue (v : Value) : Decoded ClassExposure := do
  let r ← v.toRecord .direct "struct ClassExposure" ["name", "type", "methods"]
  let name := r.field Value.toStr "name"
  let channel := r.field (Value.toOption Channel.ofValue) "type"
  let methods := r.field (Value.toList MethodExposure.ofValue) "methods"
  r.settle [name.required "name", channel.optional "type", methods.optional "methods"]
  return {
    name := ← name.value "name"
    channel := ← channel.valueD none
    methods := ← methods.valueD [] }

/-- The exposure that a value writes. -/
def Exposure.ofValue (v : Value) : Decoded Exposure := do
  let r ← v.toRecord .direct "struct ExposureConfig" ["classes"]
  let classes := r.field (Value.toList ClassExposure.ofValue) "classes"
  r.settle [classes.optional "classes"]
  return { classes := ← classes.valueD [] }

/-! ### Writing -/

/-- The value that writes the channel of a method. -/
def MethodExposure.toValue (m : MethodExposure) : Value :=
  Value.ofFields [("name", .string m.name), ("type", .string m.channel.name)]

/-- The value that writes the exposure of a class. -/
def ClassExposure.toValue (c : ClassExposure) : Value :=
  Value.ofFields ([("name", .string c.name)]
    ++ (c.channel.map fun channel => ("type", Value.string channel.name)).toList
    ++ [("methods", .array (c.methods.map MethodExposure.toValue))])

/-- The value that writes an exposure. -/
def Exposure.toValue (e : Exposure) : Value :=
  Value.ofFields [("classes", .array (e.classes.map ClassExposure.toValue))]

end ClientGen
