import ClientGen.File.Declaration
import ClientGen.File.Documentation

/-!
# Spelled methods

A method as it stands in the file of its class. A caller may leave out the parameters of
the last run in which each is optional or has a default; these come with their default, or
else with a type that allows for their absence. An optional parameter before that run has
to be passed, and its type allows for the absence of a value.
-/

namespace ClientGen

/-- A parameter as it is spelled: whether it may be left out, its default, and whether it
is the first one that may be left out. -/
structure SpelledParameter where
  name : String
  type : String
  isOptional : Bool
  fallback : Option String
  opensRun : Bool
  isLast : Bool
deriving DecidableEq

/-- A parameter as it is passed on. -/
structure Argument where
  name : String
  isLast : Bool
deriving DecidableEq

/-- A method as it is spelled. -/
structure SpelledMethod where
  name : String
  doc : List String
  parameters : List SpelledParameter
  hasOptional : Bool
  returnType : String
  returnsValue : Bool
  qualifiedName : String
  arguments : List Argument
deriving DecidableEq

/-- Whether a caller could do without a parameter. -/
def Parameter.isOmittable (p : Parameter) : Bool :=
  p.isOptional || p.fallback.isSome

/-- The parameters before the last run of those that a caller could do without. -/
def requiredPart (parameters : List Parameter) : List Parameter :=
  (parameters.reverse.dropWhile Parameter.isOmittable).reverse

/-- The last run of parameters that a caller could do without. -/
def omittablePart (parameters : List Parameter) : List Parameter :=
  (parameters.reverse.takeWhile Parameter.isOmittable).reverse

theorem requiredPart_append_omittablePart (parameters : List Parameter) :
  requiredPart parameters ++ omittablePart parameters = parameters
  := by
  rw [requiredPart, omittablePart, ← List.reverse_append, List.takeWhile_append_dropWhile,
    List.reverse_reverse]

/-- Whether a type of a kind that is not known occurs in the signature of a method. -/
def Method.containsUnknown (m : Method) : Bool :=
  m.returnType.containsUnknown || m.parameters.any fun p => p.type.containsUnknown

/-- Whether a type is that of no value. -/
def TypeNode.isVoid : TypeNode → Bool
  | .primitive .void => true
  | _ => false

/-- The name of a method together with that of its class. -/
def qualifiedName (className method : String) : String :=
  className ++ "." ++ method

namespace Language

/-- A parameter that has to be passed. -/
def spellRequired (lang : Language) (renames : Renames) (p : Parameter) :
    SpelledParameter :=
  let text := lang.renamedText renames p.type
  { name := lang.sanitize p.name
    type := if p.isOptional then lang.nullableType text else text
    isOptional := false
    fallback := none
    opensRun := false
    isLast := false }

/-- A parameter that may be left out. -/
def spellOmittable (lang : Language) (renames : Renames) (p : Parameter) :
    SpelledParameter :=
  let text := lang.renamedText renames p.type
  { name := lang.sanitize p.name
    type := if p.isOptional && p.fallback.isNone then lang.optionalType text else text
    isOptional := true
    fallback := p.fallback.map lang.literal
    opensRun := false
    isLast := false }

/-- The parameters that may be left out, of which the first is marked. -/
def spellRun (lang : Language) (renames : Renames) : List Parameter → List SpelledParameter
  | [] => []
  | p :: rest =>
    { lang.spellOmittable renames p with opensRun := true }
      :: rest.map (lang.spellOmittable renames)

/-- The parameters of a method. -/
def spellParameters (lang : Language) (renames : Renames) (parameters : List Parameter) :
    List SpelledParameter :=
  mapLast (fun p isLast => { p with isLast := isLast })
    ((requiredPart parameters).map (lang.spellRequired renames)
      ++ lang.spellRun renames (omittablePart parameters))

/-- A method of a class. -/
def spellMethod (lang : Language) (renames : Renames) (className : String) (m : Method) :
    SpelledMethod where
  name := lang.methodName m.name
  doc := docLines m.doc
  parameters := lang.spellParameters renames m.parameters
  hasOptional := !(omittablePart m.parameters).isEmpty
  returnType := lang.returnTypeText (m.returnType.rename renames)
  returnsValue := !m.returnType.awaited.isVoid
  qualifiedName := lang.quoteString (qualifiedName className m.name)
  arguments := mapLast (fun p isLast => ⟨lang.sanitize p.name, isLast⟩) m.parameters

end Language

end ClientGen
