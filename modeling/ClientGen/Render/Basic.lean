import ClientGen.File.Basic

/-!
# Texts of files

What the texts of files have in common in all languages: the line that tells where a file
comes from, the place that is filled in with the address of the server, and lists of
names.
-/

namespace ClientGen.Render

/-- The texts of items one after the other. -/
def each {α : Type} (items : List α) (text : α → String) : String :=
  String.join (items.map text)

section

variable {α β : Type}

theorem each_nil (text : α → String) :
  each [] text = ""
  := rfl

theorem each_cons (a : α) (as : List α) (text : α → String) :
  each (a :: as) text = text a ++ each as text
  := String.join_cons

theorem each_append (as bs : List α) (text : α → String) :
  each (as ++ bs) text = each as text ++ each bs text
  := by rw [each, List.map_append, String.join_append, each, each]

theorem each_map (f : α → β) (as : List α) (text : β → String) :
  each (as.map f) text = each as fun a => text (f a)
  := by
  rw [each, List.map_map]
  rfl

theorem each_congr {as : List α} {text other : α → String}
    (h : ∀ a ∈ as, text a = other a) :
  each as text = each as other
  := by rw [each, List.map_congr_left h, each]

theorem intercalate_cons (sep text : String) (texts : List String) :
  sep.intercalate (text :: texts) = text ++ each texts fun text => sep ++ text
  := by
  induction texts generalizing text with
  | nil => simp [each_nil]
  | cons next texts ih =>
    rw [String.intercalate_cons_cons, ih, each_cons, String.append_assoc, String.append_assoc]

end

/-- Lines with their ends. -/
def linesText (lines : List String) : String :=
  each lines fun line => line ++ "\n"

/-- A text that is there only if a condition holds. -/
def only (condition : Bool) (text : String) : String :=
  if condition then text else ""

/-- The line that tells where a file comes from, after the mark of a comment. -/
def origin (package : Package) : String :=
  "Generated by callpath for " ++ package.name ++ "@" ++ package.version
    ++ ". Do not edit."

/-- What stands for the address of the server until the library is put to use. -/
def endpoint : String := "%%%callpath_endpoint%%%"

end ClientGen.Render

namespace ClientGen

open Render

/-- The separator after a name that is taken under itself. -/
def ImportStatement.plainSeparator (s : ImportStatement) (i : ImportedName) : String :=
  only (!s.aliased.isEmpty || !i.isLast) ", "

/-- The names that a statement takes under other names. -/
def ImportStatement.aliasedText (s : ImportStatement) : String :=
  each s.aliased fun i => i.name ++ " as " ++ i.localName ++ separator ", " i.isLast

/-- The names that a statement takes. -/
def ImportStatement.namesText (s : ImportStatement) : String :=
  (each s.plain fun i => i.name ++ s.plainSeparator i) ++ s.aliasedText

/-- The names that a statement takes under themselves. -/
def ImportStatement.plainText (s : ImportStatement) : String :=
  each s.plain fun i => i.name ++ separator ", " i.isLast

/-- The default of a parameter. An empty text gives none. -/
def SpelledParameter.fallbackText? (p : SpelledParameter) : Option String :=
  p.fallback.filter fun text => text ≠ ""

/-- The default of a parameter after an equals sign. -/
def SpelledParameter.fallbackText (p : SpelledParameter) : String :=
  match p.fallbackText? with
  | some text => " = " ++ text
  | none => ""

/-- The arguments of a call, each after a comma. -/
def SpelledMethod.argumentsText (m : SpelledMethod) : String :=
  each m.arguments fun a => ", " ++ a.name

end ClientGen
