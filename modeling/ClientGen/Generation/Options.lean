import ClientGen.Options.Exposure
import ClientGen.Options.Package
import ClientGen.Program.Model
import ClientGen.Target.Language

/-!
# Options of a run

What a run needs to know beside the programs: the language, the channel, the package, and
the channel of each method.
-/

namespace ClientGen

/-- What a run needs to know beside the programs. -/
structure Options where
  language : Language
  channel : Channel := .jsonrpc
  package : Package := {}
  exposure : Exposure := {}
deriving DecidableEq

namespace Options

/-- Whether a method of a class is offered: it is called on the channel of the run, and it
makes no objects. -/
def offers (o : Options) (className : String) (m : Method) : Bool :=
  m.kind ≠ .constructor && o.exposure.channelFor className m.name = o.channel

/-- The methods of a class that are offered. -/
def qualifying (o : Options) (c : RemoteClass) : List Method :=
  c.methods.filter (o.offers c.name)

end Options

end ClientGen
