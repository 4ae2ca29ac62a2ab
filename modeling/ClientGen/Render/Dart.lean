import ClientGen.Render.Basic

/-!
# Dart

The texts of files in Dart. An import has no aliases, so a name that is used under another
one is imported with a qualifier and defined as a type by it.
-/

namespace ClientGen

open Render

/-! ### Declarations -/

/-- A field. -/
def SpelledField.dart (f : SpelledField) : String :=
  "\n  final " ++ f.type ++ " " ++ f.name ++ ";"

/-- A field as a parameter of the constructor. -/
def SpelledField.dartParameter (f : SpelledField) : String :=
  only (!f.isOptional) "required " ++ "this." ++ f.name ++ separator ", " f.isLast

/-- A case. -/
def SpelledCase.dart (c : SpelledCase) : String :=
  "\n  " ++ c.name ++ "(" ++ c.value ++ ")" ++ (if c.isLast then ";" else ",")

/-- A declaration. An enumeration without cases becomes a class that has no objects. -/
def SpelledDeclaration.dart : SpelledDeclaration → String
  | .struct name fields =>
    "class " ++ name ++ " \x7b" ++ each fields SpelledField.dart ++ "\n\n  const " ++ name
      ++ "(" ++ only (!fields.isEmpty)
        ("\x7b " ++ each fields SpelledField.dartParameter ++ " \x7d")
      ++ ");\n\x7d"
  | .typeAlias name target => "typedef " ++ name ++ " = " ++ target ++ ";"
  | .enumeration name valueType _ cases =>
    if cases.isEmpty then
      "class " ++ name ++ " \x7b\n  const " ++ name ++ "._();\n\x7d"
    else
      "enum " ++ name ++ " \x7b" ++ each cases SpelledCase.dart ++ "\n\n  final "
        ++ valueType ++ " value;\n\n  const " ++ name ++ "(this.value);\n\x7d"

/-- A declaration after an empty line. -/
def SpelledDeclaration.dartBlock (d : SpelledDeclaration) : String :=
  "\n\n" ++ d.dart

/-! ### Statements -/

/-- A statement that starts with a given word, for the names used under themselves. -/
def ImportStatement.dartShow (word : String) (s : ImportStatement) : String :=
  only (!s.plain.isEmpty)
    ("\n" ++ word ++ " '" ++ s.path ++ "' show " ++ s.plainText ++ ";")

/-- The imports of a statement. -/
def ImportStatement.dart (s : ImportStatement) : String :=
  s.dartShow "import"
    ++ each s.aliased fun i => "\nimport '" ++ s.path ++ "' as " ++ i.qualifier ++ ";"

/-- The names of a statement that are defined by other names. -/
def ImportStatement.dartTypedefs (s : ImportStatement) : String :=
  each s.aliased fun i =>
    "\ntypedef " ++ i.localName ++ " = " ++ i.qualifier ++ "." ++ i.name ++ ";"

/-! ### Methods -/

/-- A documentation, each line of which stands after the given indentation. -/
def dartDoc (indent : String) (lines : List String) : String :=
  each lines fun line => "\n" ++ indent ++ "/// " ++ line

/-- A parameter. Those that may be left out stand between brackets. -/
def SpelledParameter.dart (closesRun : Bool) (p : SpelledParameter) : String :=
  only p.opensRun "[" ++ p.type ++ " " ++ p.name ++ p.fallbackText
    ++ (if p.isLast then only closesRun "]" else ", ")

/-- The call of the server, with the arguments as a list. -/
def SpelledMethod.dartCall (m : SpelledMethod) : String :=
  "await _remote.call(" ++ m.qualifiedName ++ ", ["
    ++ (each m.arguments fun a => a.name ++ separator ", " a.isLast) ++ "]);"

/-- A method of a class. -/
def SpelledMethod.dart (m : SpelledMethod) : String :=
  "\n" ++ dartDoc "  " m.doc ++ "\n  static " ++ m.returnType ++ " " ++ m.name ++ "("
    ++ each m.parameters (SpelledParameter.dart m.hasOptional) ++ ") async \x7b\n    "
    ++ only m.returnsValue "return " ++ m.dartCall ++ "\n  \x7d"

/-! ### Files -/

/-- The file of a class. -/
def ClassFile.dart (f : ClassFile) : String :=
  "// " ++ origin f.package ++ "\nimport '" ++ f.stubPath ++ "';"
    ++ each f.imports ImportStatement.dart
    ++ each f.reexports (ImportStatement.dartShow "export")
    ++ each f.imports ImportStatement.dartTypedefs
    ++ each f.declarations SpelledDeclaration.dartBlock
    ++ "\n" ++ dartDoc "" f.doc
    ++ "\nclass " ++ f.name ++ " \x7b\n  static final Remote _remote = Remote('" ++ f.name
    ++ "');" ++ each f.methods SpelledMethod.dart ++ "\n\x7d\n"

/-- A file of types. -/
def TypeFile.dart (f : TypeFile) : String :=
  "// " ++ origin f.package ++ each f.imports ImportStatement.dart
    ++ each f.imports ImportStatement.dartTypedefs
    ++ each f.declarations SpelledDeclaration.dartBlock ++ "\n"

/-- The lines of the file that carries calls to the server. -/
def StubFile.dartLines (f : StubFile) : List String := [
  "// " ++ origin f.package,
  "import 'dart:convert';",
  "import 'dart:io';",
  "",
  "const String endpoint = '" ++ endpoint ++ "';",
  "",
  "class RemoteException implements Exception \x7b",
  "  final String message;",
  "  final int? code;",
  "",
  "  RemoteException(this.message, [this.code]);",
  "",
  "  @override",
  "  String toString() => 'RemoteException: $message';",
  "\x7d",
  "",
  "class Remote \x7b",
  "  final String service;",
  "  int _nextId = 0;",
  "",
  "  Remote(this.service);",
  "",
  "  Future<dynamic> call(String method, List<dynamic> params) async \x7b",
  "    final client = HttpClient();",
  "    try \x7b",
  "      final request = await client.postUrl(Uri.parse(endpoint));",
  "      request.headers.contentType = ContentType.json;",
  "      request.write(jsonEncode(",
  "          \x7b'jsonrpc': '2.0', 'id': ++_nextId, 'method': method, 'params': params\x7d));",
  "      final response = await request.close();",
  "      final body = await response.transform(utf8.decoder).join();",
  "      final payload = jsonDecode(body) as Map<String, dynamic>;",
  "      final error = payload['error'];",
  "      if (error != null) \x7b",
  "        throw RemoteException('$service: $\x7berror['message']\x7d', error['code'] as int?);",
  "      \x7d",
  "      return payload['result'];",
  "    \x7d finally \x7b",
  "      client.close();",
  "    \x7d",
  "  \x7d",
  "\x7d"]

/-- The file that carries calls to the server. -/
def StubFile.dart (f : StubFile) : String :=
  linesText f.dartLines

end ClientGen
