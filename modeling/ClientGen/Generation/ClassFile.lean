import ClientGen.Generation.Options
import ClientGen.Resolution.Class

/-!
# The file of a class

The file of a class holds the offered methods, which pass their arguments on to the
server.
-/

namespace ClientGen

/-- What is reported of the methods of a class. -/
def methodDiagnostics (className : String) (methods : List Method) : List Diagnostic :=
  (methods.filter Method.containsUnknown).map fun m =>
    .unknownType (qualifiedName className m.name)

/-- The file of a class with the given methods and imports. -/
def Options.classFile (o : Options) (c : RemoteClass) (methods : List Method)
    (imports : ClassImports) : ClassFile :=
  let path := o.language.proxyModule c.name
  { name := c.name
    doc := docLines c.doc
    path := path
    package := o.package
    stubPath := Module.importPath o.language path o.language.stubModule
    imports := imports.imports
    annotationImports := imports.annotationImports
    reexports := imports.reexports
    declarations := imports.declarations
    methods := methods.map (o.language.spellMethod imports.renames c.name) }

end ClientGen
