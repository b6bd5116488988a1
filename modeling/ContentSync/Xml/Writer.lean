/-!
# Writing markup

Documents are written as a declaration followed by a tree of elements, one element tag to a
line, each line indented by four spaces per level of nesting. An element without children is
written as an empty-element tag. Attribute values are escaped so that none of `<`, `>`, `&`,
`'` and `"` appears in them literally; names are written as they are.

Main definitions: `XmlElement`, `escapeAttribute`, `XmlElement.lines`, `xmlDocument`.
-/

namespace ContentSync.Xml

/-- An element: its tag, its attributes in order, and its children. -/
structure XmlElement where
  tag : String
  attributes : List (String × String)
  children : List XmlElement
deriving Repr, Inhabited

/-- The escaped form of one character of an attribute value. -/
def escapeChar : Char → String
  | '<' => "&lt;"
  | '>' => "&gt;"
  | '&' => "&amp;"
  | '\'' => "&apos;"
  | '"' => "&quot;"
  | c => c.toString

/-- An attribute value with the markup characters escaped. -/
def escapeAttribute (v : String) : String :=
  String.join (v.toList.map escapeChar)

/-- The attributes of a tag, each preceded by a blank. -/
def attributeText (attributes : List (String × String)) : String :=
  String.join (attributes.map fun (k, v) => " " ++ k ++ "=\"" ++ escapeAttribute v ++ "\"")

/-- The indentation of a nesting level. -/
def indent (depth : Nat) : String :=
  String.ofList (List.replicate (4 * depth) ' ')

mutual
/-- The lines of an element at a nesting level. -/
def XmlElement.lines (depth : Nat) : XmlElement → List String
  | ⟨tag, attributes, []⟩ => [indent depth ++ "<" ++ tag ++ attributeText attributes ++ "/>"]
  | ⟨tag, attributes, c :: cs⟩ =>
    (indent depth ++ "<" ++ tag ++ attributeText attributes ++ ">") ::
      (XmlElement.linesOfAll (depth + 1) (c :: cs) ++ [indent depth ++ "</" ++ tag ++ ">"])

/-- The lines of elements at a nesting level, one after another. -/
def XmlElement.linesOfAll (depth : Nat) : List XmlElement → List String
  | [] => []
  | e :: es => XmlElement.lines depth e ++ XmlElement.linesOfAll depth es
end

/-- The declaration that starts every document. -/
def declaration : String := "<?xml version=\"1.0\" encoding=\"UTF-8\"?>"

/-- A document holding one root element, ending with a line break. -/
def xmlDocument (root : XmlElement) : String :=
  "\n".intercalate (declaration :: root.lines 0) ++ "\n"

end ContentSync.Xml
