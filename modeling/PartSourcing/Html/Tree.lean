import PartSourcing.Html.Token

/-!
# The tree of a page

Elements nest as their tags do. Some elements have no content, some end where a sibling starts
(rows and cells of a table, items of a list, paragraphs), and an end tag without its start tag
counts for nothing. Whatever is still open ends with the page.
-/

namespace PartSourcing.Html

/-- A node of a page. -/
inductive Node where
  | text (s : List Char)
  | element (name : String) (attributes : List Attribute) (children : List Node)
  deriving Inhabited

/-- Elements without content. -/
def empties : List String := ["area", "base", "br", "col", "embed", "hr", "img", "input", "link",
  "meta", "param", "source", "track", "wbr"]

/-- The open elements that a start tag ends, and the element within which it looks for them. -/
def endedBy : String → List String × List String
  | "tr" => (["td", "th", "tr"], ["table"])
  | "td" | "th" => (["td", "th"], ["tr", "table"])
  | "tbody" | "thead" | "tfoot" =>
    (["td", "th", "tr", "tbody", "thead", "tfoot", "caption", "colgroup"], ["table"])
  | "li" => (["li"], ["ul", "ol", "table"])
  | "dt" | "dd" => (["dt", "dd"], ["dl", "table"])
  | "option" => (["option"], ["select"])
  | "p" | "div" | "table" | "ul" | "ol" | "dl" | "h1" | "h2" | "h3" | "h4" | "h5" | "h6" =>
    (["p"], ["table", "td", "th", "div"])
  | _ => ([], [])

/-- An element that is still open, its children so far last first. -/
structure Open where
  name : String
  attributes : List Attribute
  children : List Node

/-- The node of an element that ends. -/
def Open.close (o : Open) : Node := .element o.name o.attributes o.children.reverse

/-- A page on its way: the open elements, innermost first, and the nodes outside of them. -/
structure Builder where
  stack : List Open
  roots : List Node

namespace Builder

/-- Adds a node where the page stands. -/
def add (b : Builder) (n : Node) : Builder :=
  match b.stack with
  | o :: os => { b with stack := { o with children := n :: o.children } :: os }
  | [] => { b with roots := n :: b.roots }

/-- Ends the innermost element. -/
def pop (b : Builder) : Builder :=
  match b.stack with
  | o :: os => { b with stack := os }.add o.close
  | [] => b

/-- Ends so many elements. -/
def popMany : Nat → Builder → Builder
  | 0, b => b
  | n + 1, b => popMany n b.pop

/-- How many elements to end so that the innermost one of the given names within the given
bounds ends. -/
def depthOf? (names bounds : List String) : List Open → Option Nat
  | [] => none
  | o :: os =>
    if names.contains o.name then some 1
    else if bounds.contains o.name then none
    else (depthOf? names bounds os).map (· + 1)

/-- Ends the elements that a start tag ends; `left` bounds their number. -/
def makeRoom (names bounds : List String) : (left : Nat) → Builder → Builder
  | 0, b => b
  | left + 1, b =>
    match depthOf? names bounds b.stack with
    | some n => makeRoom names bounds left (popMany n b)
    | none => b

/-- Takes one token. -/
def step (b : Builder) : Token → Builder
  | .text s => b.add (.text s)
  | .openTag name as =>
    let (names, bounds) := endedBy name
    let b := makeRoom names bounds b.stack.length b
    if empties.contains name then b.add (.element name as [])
    else { b with stack := ⟨name, as, []⟩ :: b.stack }
  | .closeTag name =>
    match depthOf? [name] [] b.stack with
    | some n => popMany n b
    | none => b

end Builder

/-- **The nodes of a page.** -/
def parse (page : String) : List Node :=
  let b := (tokens page).foldl Builder.step ⟨[], []⟩
  (Builder.popMany b.stack.length b).roots.reverse

mutual
/-- The elements of a node in their order, itself included. -/
def Node.elements : Node → List Node
  | .text _ => []
  | .element name as children => .element name as children :: elementsOf children

/-- The elements of some nodes in their order. -/
def elementsOf : List Node → List Node
  | [] => []
  | n :: ns => n.elements ++ elementsOf ns
end

mutual
/-- The text of a node. -/
def Node.content : Node → List Char
  | .text s => s
  | .element _ _ children => contentOf children

/-- The text of some nodes. -/
def contentOf : List Node → List Char
  | [] => []
  | n :: ns => n.content ++ contentOf ns
end

namespace Node

/-- The elements inside a node. -/
def inner : Node → List Node
  | .text _ => []
  | .element _ _ children => elementsOf children

/-- The value of an attribute. -/
def attribute? (n : Node) (key : String) : Option String :=
  match n with
  | .element _ as _ => as.lookup key
  | .text _ => none

/-- The classes of an element. -/
def classes (n : Node) : List (List Char) :=
  match n.attribute? "class" with
  | some s => (Text.pieces (fun c => isSeparator c && c != '/') s.toList).filter fun p => !p.isEmpty
  | none => []

/-- Whether a node is an element of the given name and class. -/
def isA (n : Node) (name className : String) : Bool :=
  match n with
  | .element m _ _ => m == name && n.classes.contains className.toList
  | .text _ => false

/-- Whether a node is an element of the given name. -/
def hasName (n : Node) (name : String) : Bool :=
  match n with
  | .element m _ _ => m == name
  | .text _ => false

end Node

end PartSourcing.Html
